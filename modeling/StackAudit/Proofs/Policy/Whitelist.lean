import Mathlib.Data.List.Induction
import StackAudit.Policy.Query
import StackAudit.Proofs.Equality
import StackAudit.Proofs.Policy.Reading

/-!
# Principals off the whitelist

The query for the principals that are not on a whitelist goes through the tokens one by one and
keeps those that are neither listed nor equal to a token that it has kept. So it yields the first
appearances of the tokens, without those that are listed
(`PolicyDocument.nonWhitelistedAllowedPrincipals_eq`): what is listed is left out wherever it
stands, and equal tokens are listed alike.

Equality of tokens is that of nodes. So all that is said here needs the maps within calls to have
distinct names and their numbers to be numbers (`PolicyDocument.HasSoundPrincipals`).

## Shape of the proof

The loop adds at the end, so the inductions are from the end of the tokens. A token that is not
listed is kept if it equals none of the tokens before it; the loop only looks at those that it has
kept, but each of the others equals one of them (`PrincipalToken.exists_mem_firstAppearances`).
-/

namespace StackAudit

namespace PrincipalToken

/-! ## Equality of tokens -/

/-- A token as a node. -/
def toNode : PrincipalToken → Node
  | literal text => .string text
  | unresolved function argument => .call function argument

/-- Tokens are equal if they are equal as nodes. -/
theorem equals_eq (a b : PrincipalToken) : a.equals b = a.toNode.equals b.toNode := by
  cases a <;> cases b <;> simp [equals, toNode, Node.equals]

variable {a b c : PrincipalToken} {tokens : List PrincipalToken}

/-- A sound token equals itself. -/
theorem equals_self (h : a.toNode.Sound) : a.equals a = true := by
  rw [equals_eq]
  exact h.equals_self

/-- What a sound token equals equals it. -/
theorem equals_symm (ha : a.toNode.Sound) (h : a.equals b = true) : b.equals a = true := by
  rw [equals_eq] at h ⊢
  exact ha.equals_symm h

/-- Equality of tokens is transitive. -/
theorem equals_trans (h : a.equals b = true) (h' : b.equals c = true) : a.equals c = true := by
  rw [equals_eq] at h h' ⊢
  exact Node.equals_trans h h'

/-- A literal equals nothing but itself. -/
theorem literal_equals_iff {text : String} :
    (literal text).equals b = true ↔ b = literal text := by
  cases b with
  | literal other => simp [equals, @eq_comm _ text]
  | unresolved => simp [equals]

/-! ## First appearances -/

/-- The tokens at the places before which there is no equal one. -/
def firstAppearances (tokens : List PrincipalToken) : List PrincipalToken :=
  (tokens.zipIdx.filter fun e => !(tokens.take e.2).any e.1.equals).map Prod.fst

/-- A token at the end is new if no token before it equals it. -/
theorem firstAppearances_concat (tokens : List PrincipalToken) (token : PrincipalToken) :
    firstAppearances (tokens ++ [token]) =
      firstAppearances tokens ++ if tokens.any token.equals then [] else [token] := by
  unfold firstAppearances
  rw [List.zipIdx_append, List.filter_append, List.map_append]
  -- a token at the end is behind all others, so their prefixes stay as they were
  congr 1
  · refine congrArg (List.map Prod.fst) (List.filter_congr fun e he => ?_)
    have hplace : e.2 < tokens.length := by simpa using List.snd_lt_of_mem_zipIdx he
    rw [List.take_append_of_le_length (Nat.le_of_lt hplace)]
  · cases hany : tokens.any token.equals <;> simp [hany]

/-- What appears first is one of the tokens. -/
theorem mem_of_mem_firstAppearances (h : a ∈ firstAppearances tokens) : a ∈ tokens := by
  obtain ⟨e, he, rfl⟩ := List.mem_map.1 h
  exact List.fst_mem_of_mem_zipIdx (List.mem_of_mem_filter he)

/-- Every token equals one at its first appearance. -/
theorem exists_mem_firstAppearances (hsound : ∀ t ∈ tokens, t.toNode.Sound) (h : a ∈ tokens) :
    ∃ b ∈ firstAppearances tokens, a.equals b = true := by
  induction tokens using List.reverseRecOn generalizing a with
  | nil => cases h
  | append_singleton tokens token ih =>
    -- what was a first appearance still is one with the token at the end
    have hbefore {t : PrincipalToken} (ht : t ∈ tokens) :
        ∃ b ∈ firstAppearances (tokens ++ [token]), t.equals b = true := by
      obtain ⟨b, hb, heq⟩ := ih (fun t ht => hsound t (List.mem_append_left _ ht)) ht
      exact ⟨b, by rw [firstAppearances_concat]; exact List.mem_append_left _ hb, heq⟩
    rcases List.mem_append.1 h with ha | ha
    · exact hbefore ha
    · obtain rfl := List.mem_singleton.1 ha
      cases hany : tokens.any a.equals with
      | true =>
        -- the token equals one before it, which in turn equals a first appearance
        obtain ⟨t, ht, heq⟩ := List.any_eq_true.1 hany
        obtain ⟨b, hb, heq'⟩ := hbefore ht
        exact ⟨b, hb, equals_trans heq heq'⟩
      | false =>
        refine ⟨a, ?_, equals_self (hsound a h)⟩
        rw [firstAppearances_concat, hany]
        exact List.mem_append_right _ (List.mem_singleton_self a)

/-- No token that appears first equals one before it. -/
theorem pairwise_firstAppearances (tokens : List PrincipalToken) :
    (firstAppearances tokens).Pairwise fun a b => b.equals a = false := by
  induction tokens using List.reverseRecOn with
  | nil => exact List.Pairwise.nil
  | append_singleton tokens token ih =>
    rw [firstAppearances_concat]
    refine List.pairwise_append.2 ⟨ih, ?_, fun a ha b hb => ?_⟩
    · split
      · exact List.Pairwise.nil
      · exact List.pairwise_singleton _ _
    · split at hb
      · cases hb
      · next hany =>
        obtain rfl := List.mem_singleton.1 hb
        have hnone := List.any_eq_false.1 (eq_false_of_ne_true hany)
        exact eq_false_of_ne_true (hnone a (mem_of_mem_firstAppearances ha))

end PrincipalToken

/-! ## Tokens of documents -/

/-- The tokens of a sound node are sound. -/
theorem Principal.sound_of_mem_tokensOf {n : Node} (h : n.Sound) :
    ∀ token ∈ tokensOf n, token.toNode.Sound := by
  intro token htoken
  induction h with
  | null | bool | date => cases htoken
  | number | string =>
    obtain rfl := List.mem_singleton.1 htoken
    exact .string _
  | list _ ih =>
    rw [tokensOf, tokensOfItems_eq] at htoken
    obtain ⟨item, hitem, htoken⟩ := List.mem_flatMap.1 htoken
    exact ih item hitem htoken
  | map _ _ ih =>
    rw [tokensOf, tokensOfEntries_eq] at htoken
    obtain ⟨e, he, htoken⟩ := List.mem_flatMap.1 htoken
    exact ih e he htoken
  | call f hargument _ =>
    obtain rfl := List.mem_singleton.1 htoken
    exact .call f hargument

namespace PolicyDocument

/-- The principal elements of the statements are sound. -/
def HasSoundPrincipals (d : PolicyDocument) : Prop :=
  ∀ s ∈ d.statements, ∀ p, s.principal = some p → p.toNode.Sound

variable {d : PolicyDocument} {whitelist : List String} {a b token : PrincipalToken}

/-- The tokens of a document are those of the statements that allow something. -/
theorem mem_allowedPrincipals_iff : token ∈ d.allowedPrincipals ↔
    ∃ s ∈ d.statements, s.isAllow = true ∧ token ∈ s.principals := by
  rw [allowedPrincipals, List.mem_flatMap]
  simp only [allowStatements, List.mem_filter, and_assoc]

/-- The tokens of a document with sound principals are sound. -/
theorem HasSoundPrincipals.sound (h : d.HasSoundPrincipals) (htoken : token ∈ d.allowedPrincipals) :
    token.toNode.Sound := by
  obtain ⟨s, hs, -, htoken⟩ := mem_allowedPrincipals_iff.1 htoken
  cases hp : s.principal with
  | none =>
    rw [Statement.principals, hp] at htoken
    cases htoken
  | some p =>
    rw [Statement.principals, hp, Option.map_some, Option.getD_some, Principal.tokens_eq] at htoken
    exact Principal.sound_of_mem_tokensOf (h s hs p hp) token htoken

/-! ## The whitelist -/

/-- Only a literal is listed, by its text. -/
theorem isListed_iff :
    isListed whitelist token = true ↔ ∃ text ∈ whitelist, token = .literal text := by
  cases token <;> simp [isListed, PrincipalToken.asLiteral?, eq_comm]

/-- On a longer whitelist a token is listed if it is on either part. -/
theorem isListed_append (others : List String) :
    isListed (whitelist ++ others) token = (isListed whitelist token || isListed others token) := by
  cases token <;> simp [isListed, PrincipalToken.asLiteral?]

/-- Equal tokens are listed alike. -/
theorem isListed_eq_of_equals (h : a.equals b = true) :
    isListed whitelist a = isListed whitelist b := by
  cases a with
  | literal text => rw [PrincipalToken.literal_equals_iff.1 h]
  | unresolved f argument => cases b <;> first | cases h | rfl

/-- A token that is not listed equals a token if it equals the first appearance of one that is not
listed. -/
theorem any_unlisted_firstAppearances {tokens : List PrincipalToken}
    (hsound : ∀ t ∈ tokens, t.toNode.Sound) (htoken : isListed whitelist token = false) :
    ((PrincipalToken.firstAppearances tokens).filter (!isListed whitelist ·)).any token.equals =
      tokens.any token.equals := by
  rw [Bool.eq_iff_iff, List.any_eq_true, List.any_eq_true]
  constructor
  · rintro ⟨t, ht, heq⟩
    exact ⟨t, PrincipalToken.mem_of_mem_firstAppearances (List.mem_of_mem_filter ht), heq⟩
  · rintro ⟨t, ht, heq⟩
    obtain ⟨first, hfirst, heq'⟩ := PrincipalToken.exists_mem_firstAppearances hsound ht
    -- the first appearance is off the whitelist because `token` is and equals it
    have hall := PrincipalToken.equals_trans heq heq'
    refine ⟨first, List.mem_filter.2 ⟨hfirst, ?_⟩, hall⟩
    rw [← isListed_eq_of_equals hall, htoken]
    rfl

/-- The loop of the query keeps the first appearances of what is not listed. -/
theorem foldl_eq_unlisted_firstAppearances {tokens : List PrincipalToken}
    (hsound : ∀ t ∈ tokens, t.toNode.Sound) :
    tokens.foldl (fun reported token =>
        if isListed whitelist token || reported.any token.equals then reported
        else reported ++ [token]) [] =
      (PrincipalToken.firstAppearances tokens).filter (!isListed whitelist ·) := by
  induction tokens using List.reverseRecOn with
  | nil => rfl
  | append_singleton tokens token ih =>
    have hbefore : ∀ t ∈ tokens, t.toNode.Sound := fun t ht =>
      hsound t (List.mem_append_left _ ht)
    rw [List.foldl_concat, ih hbefore, PrincipalToken.firstAppearances_concat, List.filter_append]
    cases hlisted : isListed whitelist token with
    | true =>
      rw [Bool.true_or, if_pos rfl]
      split <;> simp [hlisted]
    | false =>
      -- what the loop has kept answers for all tokens before
      rw [any_unlisted_firstAppearances hbefore hlisted]
      cases tokens.any token.equals <;> simp [hlisted]

/-- What the query yields: the first appearances of what is not listed. -/
theorem nonWhitelistedAllowedPrincipals_eq (hd : d.HasSoundPrincipals) (whitelist : List String) :
    d.nonWhitelistedAllowedPrincipals whitelist =
      (PrincipalToken.firstAppearances d.allowedPrincipals).filter (!isListed whitelist ·) :=
  foldl_eq_unlisted_firstAppearances fun _ ht => hd.sound ht

/-- No two tokens that the query yields are equal. -/
theorem pairwise_nonWhitelistedAllowedPrincipals (hd : d.HasSoundPrincipals) :
    (d.nonWhitelistedAllowedPrincipals whitelist).Pairwise fun a b =>
      a.equals b = false ∧ b.equals a = false := by
  rw [nonWhitelistedAllowedPrincipals_eq hd]
  refine List.Pairwise.filter _ ?_
  refine (PrincipalToken.pairwise_firstAppearances _).imp_of_mem fun {a b} ha _ hba => ⟨?_, hba⟩
  have hsound := hd.sound (PrincipalToken.mem_of_mem_firstAppearances ha)
  -- the list rules out one direction; symmetry gives the other one
  cases hab : a.equals b with
  | false => rfl
  | true => exact (PrincipalToken.equals_symm hsound hab).symm.trans hba

/-- The query yields a token if the token occurs among those of a statement that allows something,
and it is not listed. -/
theorem exists_mem_nonWhitelistedAllowedPrincipals_iff (hd : d.HasSoundPrincipals) :
    (∃ r ∈ d.nonWhitelistedAllowedPrincipals whitelist, token.equals r = true) ↔
      (∃ s ∈ d.statements, s.isAllow = true ∧ ∃ t ∈ s.principals, token.equals t = true) ∧
        ∀ text ∈ whitelist, token ≠ .literal text := by
  have hoff : isListed whitelist token = false ↔ ∀ text ∈ whitelist, token ≠ .literal text := by
    rw [← Bool.not_eq_true, isListed_iff]
    simp
  rw [nonWhitelistedAllowedPrincipals_eq hd, ← hoff]
  constructor
  · rintro ⟨r, hr, heq⟩
    obtain ⟨hfirst, hr⟩ := List.mem_filter.1 hr
    obtain ⟨s, hs, hallow, hr'⟩ :=
      mem_allowedPrincipals_iff.1 (PrincipalToken.mem_of_mem_firstAppearances hfirst)
    refine ⟨⟨s, hs, hallow, r, hr', heq⟩, ?_⟩
    rw [isListed_eq_of_equals heq]
    simpa using hr
  · rintro ⟨⟨s, hs, hallow, t, ht, heq⟩, htoken⟩
    have hmem := mem_allowedPrincipals_iff.2 ⟨s, hs, hallow, ht⟩
    have hany := List.any_eq_true.2 ⟨t, hmem, heq⟩
    rw [← any_unlisted_firstAppearances (fun _ ht => hd.sound ht) htoken] at hany
    exact List.any_eq_true.1 hany

/-- The literals that the query by a pattern finds are those that the query with an empty whitelist
yields and the pattern matches. -/
theorem mem_allowedPrincipalsWith_iff_mem_nonWhitelisted (hd : d.HasSoundPrincipals)
    {matching : String → Bool} {text : String} : text ∈ d.allowedPrincipalsWith matching ↔
      .literal text ∈ d.nonWhitelistedAllowedPrincipals [] ∧ matching text = true := by
  have hliteral : text ∈ d.allowedPrincipals.filterMap PrincipalToken.asLiteral? ↔
      .literal text ∈ d.allowedPrincipals := by
    rw [List.mem_filterMap]
    constructor
    · rintro ⟨t, ht, htext⟩
      cases t with
      | literal other =>
        obtain rfl := Option.some.inj htext
        exact ht
      | unresolved => cases htext
    · exact fun h => ⟨_, h, rfl⟩
  have hfirst : .literal text ∈ d.nonWhitelistedAllowedPrincipals [] ↔
      .literal text ∈ d.allowedPrincipals := by
    rw [nonWhitelistedAllowedPrincipals_eq hd]
    constructor
    · exact fun h => PrincipalToken.mem_of_mem_firstAppearances (List.mem_of_mem_filter h)
    · intro h
      obtain ⟨first, hfirst, heq⟩ :=
        PrincipalToken.exists_mem_firstAppearances (fun _ ht => hd.sound ht) h
      obtain rfl := PrincipalToken.literal_equals_iff.1 heq
      exact List.mem_filter.2 ⟨hfirst, rfl⟩
  rw [allowedPrincipalsWith, Text.mem_ascending, List.mem_filter, hliteral, hfirst]

/-- The query for principals that are not whitelisted yields every other principal once, in the
order of first appearance. A longer whitelist only takes literals away. The literals that are left
with an empty whitelist are those that a pattern is matched with. -/
theorem nonWhitelistedAllowedPrincipals_each_once (d : PolicyDocument) (hd : d.HasSoundPrincipals)
    (whitelist others : List String) :
    (d.nonWhitelistedAllowedPrincipals whitelist).Pairwise
      (fun a b => a.equals b = false ∧ b.equals a = false) ∧
    d.nonWhitelistedAllowedPrincipals whitelist =
      (PrincipalToken.firstAppearances d.allowedPrincipals).filter (!isListed whitelist ·) ∧
    (∀ token : PrincipalToken,
      (∃ r ∈ d.nonWhitelistedAllowedPrincipals whitelist, token.equals r = true) ↔
        (∃ s ∈ d.statements, s.isAllow = true ∧ ∃ t ∈ s.principals, token.equals t = true) ∧
          ∀ text ∈ whitelist, token ≠ .literal text) ∧
    d.nonWhitelistedAllowedPrincipals (whitelist ++ others) =
      (d.nonWhitelistedAllowedPrincipals whitelist).filter (!isListed others ·) ∧
    ∀ (matching : String → Bool) (text : String), text ∈ d.allowedPrincipalsWith matching ↔
      .literal text ∈ d.nonWhitelistedAllowedPrincipals [] ∧ matching text = true := by
  refine ⟨pairwise_nonWhitelistedAllowedPrincipals hd,
    nonWhitelistedAllowedPrincipals_eq hd whitelist,
    fun _ => exists_mem_nonWhitelistedAllowedPrincipals_iff hd, ?_,
    fun _ _ => mem_allowedPrincipalsWith_iff_mem_nonWhitelisted hd⟩
  rw [nonWhitelistedAllowedPrincipals_eq hd, nonWhitelistedAllowedPrincipals_eq hd,
    List.filter_filter]
  refine List.filter_congr fun token _ => ?_
  rw [isListed_append, Bool.not_or, Bool.and_comm]

/-- A policy that names one principal by the same call twice, with the entries of a map in another
order. -/
def sharedQueue : PolicyDocument where
  statements := [
    { effect := .allow
      principal := some (.typed [
        ("AWS", .list [.string "root", .call .sub (.list [.string "*",
          .map [("Account", .string "1"), ("Stage", .string "2")]])]),
        ("Service", .string "events")]) },
    { effect := .deny, principal := some (.single (.string "guest")) },
    { effect := .allow
      principal := some (.list [
        .call .sub (.list [.string "*", .map [("Stage", .string "2"), ("Account", .string "1")]]),
        .string "root", .string "auditor"]) }]

/-- The call is reported once, at its first appearance, though its map is in another order when it
comes again. What is whitelisted or denied is not reported. -/
theorem nonWhitelistedAllowedPrincipals_each_once_sharedQueue :
    sharedQueue.HasSoundPrincipals ∧
    sharedQueue.nonWhitelistedAllowedPrincipals ["root"] =
      [.unresolved .sub (.list [.string "*",
        .map [("Account", .string "1"), ("Stage", .string "2")]]),
        .literal "events", .literal "auditor"] ∧
    (sharedQueue.nonWhitelistedAllowedPrincipals ["root"]).Pairwise
      (fun a b => a.equals b = false ∧ b.equals a = false) ∧
    sharedQueue.nonWhitelistedAllowedPrincipals ["root"] =
      (PrincipalToken.firstAppearances sharedQueue.allowedPrincipals).filter
        (!isListed ["root"] ·) ∧
    (∀ token : PrincipalToken,
      (∃ r ∈ sharedQueue.nonWhitelistedAllowedPrincipals ["root"], token.equals r = true) ↔
        (∃ s ∈ sharedQueue.statements, s.isAllow = true ∧
          ∃ t ∈ s.principals, token.equals t = true) ∧
          ∀ text ∈ ["root"], token ≠ .literal text) ∧
    sharedQueue.nonWhitelistedAllowedPrincipals (["root"] ++ ["events"]) =
      (sharedQueue.nonWhitelistedAllowedPrincipals ["root"]).filter (!isListed ["events"] ·) ∧
    ∀ (matching : String → Bool) (text : String),
      text ∈ sharedQueue.allowedPrincipalsWith matching ↔
        .literal text ∈ sharedQueue.nonWhitelistedAllowedPrincipals [] ∧ matching text = true := by
  have hsound : sharedQueue.HasSoundPrincipals := by
    intro s hs p hp
    simp only [sharedQueue, List.mem_cons, List.not_mem_nil, or_false] at hs
    rcases hs with rfl | rfl | rfl <;> obtain rfl := Option.some.inj hp <;>
      simp [Principal.toNode]
  exact ⟨hsound, rfl, nonWhitelistedAllowedPrincipals_each_once sharedQueue hsound _ _⟩

end PolicyDocument

end StackAudit
