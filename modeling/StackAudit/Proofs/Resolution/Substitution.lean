import Mathlib.Data.List.Basic
import StackAudit.Proofs.Resolution.Replacement

/-!
# Substitution for tokens

Every text has exactly one cut into tokens and the literal texts around them, if a token goes from
the first opening to the first closing brace after it (`Substitution.Exact`). `Fn::Sub` puts one
text in the place of each token of this cut and keeps the literal texts, so what is put in is not
looked at again (`Node.resolve_sub`). `Substitution.Becomes` says which text that is.

## Shape of the proof

The reader goes over literal text to the first opening (`readLiteral_append`), and from there over
the token to the first closing brace (`readToken_append`); what is left when there are no more
tokens is literal text (`readLiteral_of_not_hasToken`). So it reads an exact cut back from the text
that the cut makes up (`ofText_fill_written`), which leaves room for one exact cut only. That there
is one is shown by taking the first token off the text as long as it has one
(`exact_ofText_and_fill`).
-/

namespace StackAudit

namespace Substitution

/-! ## Cuts -/

/-- A token is opened somewhere in the text and closed later. -/
def HasToken (text : List Char) : Prop :=
  ∃ before after, text = before ++ '$' :: '{' :: after ∧ '}' ∈ after

/-- A text is cut at its tokens: no token has a closing brace, no literal text before a token has an
opening, and in the literal text after the last token none is opened and closed. -/
structure Exact (s : Substitution) : Prop where
  literal : ∀ e ∈ s.tokens, ¬['$', '{'] <:+: e.1
  token : ∀ e ∈ s.tokens, '}' ∉ e.2
  tail : ¬HasToken s.tail

/-- A literal text and a token in front of a text that is cut. -/
def cons (literal token : List Char) (s : Substitution) : Substitution :=
  { s with tokens := (literal, token) :: s.tokens }

variable {literal token rest text : List Char}

/-- A cut is exact if its first literal text and token are as they should be and the rest is exact.
-/
theorem exact_cons_iff {s : Substitution} :
    (s.cons literal token).Exact ↔ ¬['$', '{'] <:+: literal ∧ '}' ∉ token ∧ s.Exact := by
  constructor
  · rintro ⟨hliteral, htoken, htail⟩
    obtain ⟨hfirst, hliteral⟩ := List.forall_mem_cons.1 hliteral
    obtain ⟨hfirst', htoken⟩ := List.forall_mem_cons.1 htoken
    exact ⟨hfirst, hfirst', hliteral, htoken, htail⟩
  · rintro ⟨hfirst, hfirst', hliteral, htoken, htail⟩
    exact ⟨List.forall_mem_cons.2 ⟨hfirst, hliteral⟩, List.forall_mem_cons.2 ⟨hfirst', htoken⟩,
      htail⟩

/-- The first token is filled in before those of the rest. -/
theorem fill_cons (s : Substitution) (literal token : List Char)
    (replacement : List Char → List Char) :
    (s.cons literal token).fill replacement =
      literal ++ replacement token ++ s.fill replacement := rfl

/-! ## The first token -/

/-- A token in a text stands at its beginning or later. -/
theorem hasToken_cons_iff {c : Char} :
    HasToken (c :: text) ↔
      (∃ after, c = '$' ∧ text = '{' :: after ∧ '}' ∈ after) ∨ HasToken text := by
  constructor
  · rintro ⟨before, after, heq, hclosed⟩
    cases before with
    | nil =>
      obtain ⟨hc, htext⟩ := List.cons.inj heq
      exact .inl ⟨after, hc, htext, hclosed⟩
    | cons d before => exact .inr ⟨before, after, (List.cons.inj heq).2, hclosed⟩
  · rintro (⟨after, rfl, rfl, hclosed⟩ | ⟨before, after, rfl, hclosed⟩)
    · exact ⟨[], after, rfl, hclosed⟩
    · exact ⟨c :: before, after, rfl, hclosed⟩

/-- An opening in a text stands at its beginning or later. -/
theorem opening_cons_iff {c : Char} :
    ['$', '{'] <:+: c :: text ↔
      (∃ after, c = '$' ∧ text = '{' :: after) ∨ ['$', '{'] <:+: text := by
  rw [List.infix_cons_iff]
  refine or_congr_left ⟨?_, ?_⟩
  · rintro ⟨after, heq⟩
    obtain ⟨rfl, rfl⟩ := List.cons.inj heq
    exact ⟨after, rfl, rfl⟩
  · rintro ⟨after, rfl, rfl⟩
    exact ⟨after, rfl⟩

/-- A text with a token has a first one: literal text without an opening, and a token up to the
first closing brace. -/
theorem HasToken.exists_first (h : HasToken text) : ∃ literal token rest,
    text = literal ++ '$' :: '{' :: (token ++ '}' :: rest) ∧
      ¬['$', '{'] <:+: literal ∧ '}' ∉ token := by
  induction text with
  | nil =>
    obtain ⟨before, after, heq, -⟩ := h
    cases before <;> cases heq
  | cons c text ih =>
    by_cases hfirst : ∃ after, c = '$' ∧ text = '{' :: after ∧ '}' ∈ after
    · obtain ⟨after, rfl, rfl, hclosed⟩ := hfirst
      obtain ⟨token, rest, rfl, htoken⟩ := List.eq_append_cons_of_mem hclosed
      exact ⟨[], token, rest, rfl, by simp, htoken⟩
    · obtain ⟨literal, token, rest, rfl, hliteral, htoken⟩ :=
        ih ((hasToken_cons_iff.1 h).resolve_left hfirst)
      refine ⟨c :: literal, token, rest, rfl, fun hopening => ?_, htoken⟩
      -- an opening at `c` would be closed by the brace that closes the token
      rcases opening_cons_iff.1 hopening with ⟨after, hc, rfl⟩ | hopening
      · exact hfirst ⟨_, hc, rfl, by simp⟩
      · exact hliteral hopening

/-! ## Reading -/

/-- A token that is never closed is literal text. -/
theorem readToken_of_not_mem (h : '}' ∉ text) :
    readToken literal token text =
      ⟨[], literal.reverse ++ '$' :: '{' :: (token.reverse ++ text)⟩ := by
  -- the characters read so far are kept in reverse, so the induction is for all of them
  induction text generalizing token with
  | nil => rw [readToken, List.append_nil]
  | cons c text ih =>
    obtain ⟨hc, htext⟩ := not_or.1 (mt List.mem_cons.2 h)
    rw [readToken.eq_3 _ _ _ _ (Ne.symm hc), ih htext, List.reverse_cons, List.append_assoc,
      List.singleton_append]

/-- A token is read up to the first closing brace. -/
theorem readToken_append {before : List Char} (h : '}' ∉ token) :
    readToken literal before (token ++ '}' :: rest) =
      (ofText rest).cons literal.reverse (before.reverse ++ token) := by
  induction token generalizing before with
  | nil => rw [List.nil_append, readToken, List.append_nil]; rfl
  | cons c token ih =>
    obtain ⟨hc, htoken⟩ := not_or.1 (mt List.mem_cons.2 h)
    rw [List.cons_append, readToken.eq_3 _ _ _ _ (Ne.symm hc), ih htoken, List.reverse_cons,
      List.append_assoc, List.singleton_append]

/-- A text without tokens is read as literal text. -/
theorem readLiteral_of_not_hasToken (h : ¬HasToken text) :
    readLiteral literal text = ⟨[], literal.reverse ++ text⟩ := by
  induction text generalizing literal with
  | nil => rw [readLiteral, List.append_nil]
  | cons c text ih =>
    obtain ⟨hfirst, htext⟩ := not_or.1 (mt hasToken_cons_iff.2 h)
    by_cases hopening : ∃ after, c = '$' ∧ text = '{' :: after
    · obtain ⟨after, rfl, rfl⟩ := hopening
      rw [readLiteral, readToken_of_not_mem fun hclosed => hfirst ⟨after, rfl, rfl, hclosed⟩]
      rfl
    · rw [readLiteral.eq_3 _ _ _ fun after hc heq => hopening ⟨after, hc, heq⟩, ih htext,
        List.reverse_cons, List.append_assoc, List.singleton_append]

/-- Literal text is read up to the first opening. -/
theorem readLiteral_append {before : List Char} (h : ¬['$', '{'] <:+: literal) :
    readLiteral before (literal ++ '$' :: '{' :: rest) =
      readToken (literal.reverse ++ before) [] rest := by
  induction literal generalizing before with
  | nil => rw [List.nil_append, readLiteral]; rfl
  | cons c literal ih =>
    obtain ⟨hfirst, hliteral⟩ := not_or.1 (mt opening_cons_iff.2 h)
    -- the dollar sign of the opening after the literal text does not open anything with `c`
    have hnot (after : List Char) (hc : c = '$')
        (heq : literal ++ '$' :: '{' :: rest = '{' :: after) : False := by
      cases literal with
      | nil => cases heq
      | cons d literal => exact hfirst ⟨literal, hc, by rw [(List.cons.inj heq).1]⟩
    rw [List.cons_append, readLiteral.eq_3 _ _ _ hnot, ih hliteral, List.reverse_cons,
      List.append_assoc, List.singleton_append]

/-- The first token of a text is read, and then the text after it. -/
theorem ofText_append (hliteral : ¬['$', '{'] <:+: literal) (htoken : '}' ∉ token) :
    ofText (literal ++ '$' :: '{' :: (token ++ '}' :: rest)) =
      (ofText rest).cons literal token := by
  rw [ofText, readLiteral_append hliteral, readToken_append htoken, List.append_nil,
    List.reverse_reverse, List.reverse_nil, List.nil_append]

/-- A text without tokens is all tail. -/
theorem ofText_of_not_hasToken (h : ¬HasToken text) : ofText text = ⟨[], text⟩ :=
  readLiteral_of_not_hasToken h

/-- An exact cut is read back from the text that it makes up. -/
theorem ofText_fill_written {s : Substitution} (h : s.Exact) : ofText (s.fill written) = s := by
  obtain ⟨tokens, tail⟩ := s
  induction tokens with
  | nil => exact ofText_of_not_hasToken h.tail
  | cons e rest ih =>
    have hcut : (cons e.1 e.2 ⟨rest, tail⟩).Exact := h
    obtain ⟨hliteral, htoken, hrest⟩ := exact_cons_iff.1 hcut
    have htext : fill ⟨e :: rest, tail⟩ written =
        e.1 ++ '$' :: '{' :: (e.2 ++ '}' :: fill ⟨rest, tail⟩ written) := by
      show e.1 ++ written e.2 ++ fill ⟨rest, tail⟩ written = _
      simp [written]
    rw [htext, ofText_append hliteral htoken, ih hrest]
    rfl

/-- The cut of a text is exact, and it makes up the text. -/
theorem exact_ofText_and_fill (text : List Char) :
    (ofText text).Exact ∧ (ofText text).fill written = text := by
  by_cases h : HasToken text
  · obtain ⟨literal, token, rest, heq, hliteral, htoken⟩ := h.exists_first
    -- the text after the first token is shorter, so its cut is exact by recursion
    have hshorter : rest.length < text.length := by
      rw [heq, List.length_append, List.length_cons, List.length_cons, List.length_append,
        List.length_cons]
      omega
    obtain ⟨hexact, hfill⟩ := exact_ofText_and_fill rest
    rw [heq, ofText_append hliteral htoken, exact_cons_iff, fill_cons, hfill]
    exact ⟨⟨hliteral, htoken, hexact⟩, by simp [written]⟩
  · rw [ofText_of_not_hasToken h]
    exact ⟨⟨by simp, by simp, h⟩, rfl⟩
termination_by text.length

/-! ## What is put in -/

/-- The text that takes the place of a token: without its exclamation mark, the token as it is
written; or the text of the variable of its name, or else of the parameter; or the token as it is
written if nothing has its name. -/
inductive Becomes (bound : List (String × Value)) (scope : Scope) :
    List Char → List Char → Prop where
  | escaped (literal : List Char) : Becomes bound scope ('!' :: literal) (written literal)
  | bound {token : List Char} {value : Value} : token.head? ≠ some '!' →
      bound.lookup (String.ofList token) = some value → Becomes bound scope token value.text.toList
  | param {token : List Char} {value : Value} : token.head? ≠ some '!' →
      bound.lookup (String.ofList token) = none →
      scope.params.get? (String.ofList token) = some value →
      Becomes bound scope token value.text.toList
  | unknown {token : List Char} : token.head? ≠ some '!' →
      bound.lookup (String.ofList token) = none → scope.params.get? (String.ofList token) = none →
      Becomes bound scope token (written token)

variable {bound : List (String × Value)} {scope : Scope}

/-- A token without an exclamation mark is looked up by its name. -/
theorem replacement_of_head?_ne (h : token.head? ≠ some '!') :
    replacement bound scope token =
      (((bound.lookup (String.ofList token)).or (scope.params.get? (String.ofList token))).map
        fun value => value.text.toList).getD (written token) := by
  have hplain (literal : List Char) (heq : token = '!' :: literal) : False :=
    h (by rw [heq, List.head?_cons])
  rw [replacement.eq_2 _ _ _ hplain]
  cases (bound.lookup (String.ofList token)).or (scope.params.get? (String.ofList token)) <;> rfl

/-- What takes the place of a token is determined. -/
theorem becomes_iff : Becomes bound scope token text ↔ text = replacement bound scope token := by
  constructor
  · intro h
    cases h with
    | escaped literal => rfl
    | bound hplain hbound => rw [replacement_of_head?_ne hplain, hbound]; rfl
    | param hplain hbound hparam => rw [replacement_of_head?_ne hplain, hbound, hparam]; rfl
    | unknown hplain hbound hparam => rw [replacement_of_head?_ne hplain, hbound, hparam]; rfl
  · rintro rfl
    -- in the order of the lookups: an escape, a variable, a parameter, nothing
    by_cases hplain : token.head? = some '!'
    · obtain ⟨literal, rfl⟩ := List.head?_eq_some_iff.1 hplain
      exact .escaped literal
    · rw [replacement_of_head?_ne hplain]
      cases hbound : bound.lookup (String.ofList token) with
      | some value => exact .bound hplain hbound
      | none =>
        cases hparam : scope.params.get? (String.ofList token) with
        | some value => exact .param hplain hbound hparam
        | none => exact .unknown hplain hbound hparam

end Substitution

namespace Node

open Substitution

/-- A call of `Fn::Sub` with variables resolves to the text of the template with the tokens of its
cut replaced. -/
theorem resolve_sub_of_exact {scope : Scope} {n template vars : Node} {value : Value}
    {bound : List (String × Value)} {s : Substitution}
    (hn : n.IsCallOf .sub (.list [template, vars])) (htemplate : template.resolve scope = .ok value)
    (hvars : vars.resolve scope = .ok (.map bound)) (hs : s.Exact)
    (htext : value.text.toList = s.fill written) :
    n.resolve scope = .ok (.string (String.ofList (s.fill (replacement bound scope)))) := by
  rw [hn.resolve_pair_eq, htemplate, hvars]
  show Except.ok (Value.string (Substitution.apply bound scope value.text)) = _
  rw [Substitution.apply, htext, ofText_fill_written hs]

/-- Without variables, `Fn::Sub` works as with no variable bound. -/
theorem resolve_sub_of_template {scope : Scope} {n m template : Node}
    (hn : n.IsCallOf .sub (.list [template]) ∨
      template.asList? = none ∧ n.IsCallOf .sub template)
    (hm : m.IsCallOf .sub (.list [template, .map []])) : n.resolve scope = m.resolve scope := by
  have hempty : (Node.map []).resolve scope = .ok (.map []) := rfl
  rw [hm.resolve_pair_eq, hempty]
  rcases hn with hn | ⟨hlist, hn⟩
  · rw [hn.resolve_list_eq, List.map_singleton]
    rfl
  · rw [hn.resolve_eq, evaluate_of_asList? hlist]
    rfl

/-- Every text has exactly one exact cut. `Fn::Sub` resolves to the text of its template with the
text that each token becomes in the place of the token, and the literal texts between them as they
are; a call without variables works as with no variable bound. -/
theorem resolve_sub :
    (∀ text : String, ∃! s : Substitution, s.Exact ∧ s.fill written = text.toList) ∧
    (∀ (scope : Scope) (n template vars : Node) (value : Value) (bound : List (String × Value))
      (s : Substitution), n.IsCallOf .sub (.list [template, vars]) →
      template.resolve scope = .ok value → vars.resolve scope = .ok (.map bound) →
      s.Exact → value.text.toList = s.fill written →
      ∃ replaced : List Char → List Char,
        (∀ token text, Becomes bound scope token text ↔ text = replaced token) ∧
          n.resolve scope = .ok (.string (String.ofList (s.fill replaced)))) ∧
    ∀ (scope : Scope) (n m template : Node),
      n.IsCallOf .sub (.list [template]) ∨ template.asList? = none ∧ n.IsCallOf .sub template →
      m.IsCallOf .sub (.list [template, .map []]) → n.resolve scope = m.resolve scope := by
  refine ⟨fun text => ?_, fun scope n template vars value bound s hn htemplate hvars hs htext => ?_,
    fun scope n m template hn hm => resolve_sub_of_template hn hm⟩
  · -- any other exact cut would be read back from the same text
    refine ⟨ofText text.toList, exact_ofText_and_fill text.toList, ?_⟩
    rintro s ⟨hs, htext⟩
    rw [← htext, ofText_fill_written hs]
  · exact ⟨replacement bound scope, fun _ _ => becomes_iff,
      resolve_sub_of_exact hn htemplate hvars hs htext⟩

/-- The cut of a letter with a variable, an escaped token, a parameter after a dollar sign, a token
that means nothing and one that is never closed. -/
def letterCut : Substitution :=
  ⟨[([], "Name".toList), (", ".toList, "!Name".toList), ("\n$".toList, "Items".toList),
    (" ".toList, "no one".toList)], " $\x7bend".toList⟩

/-- What is put in for the name looks like a token and is not replaced. -/
theorem resolve_sub_letter :
    let template := Node.string
      "$\x7bName\x7d, $\x7b!Name\x7d\n$$\x7bItems\x7d $\x7bno one\x7d $\x7bend"
    let vars := Node.map [("Name", .string "$\x7bItems\x7d")]
    let scope := Scope.empty.withParam "Items" (.list [.string "a", .bool true])
    letterCut.Exact ∧
      (Node.map [("Fn::Sub", .list [template, vars])]).resolve scope = .ok (.string
        "$\x7bItems\x7d, $\x7bName\x7d\n$a,true $\x7bno one\x7d $\x7bend") ∧
      (Node.call .sub template).resolve scope =
        (Node.call .sub (.list [template, .map []])).resolve scope := by
  intro template vars scope
  obtain ⟨-, hbound, hsame⟩ := resolve_sub
  have hcut : ofText (letterCut.fill written) = letterCut := rfl
  have hexact : letterCut.Exact := hcut ▸ (exact_ofText_and_fill _).1
  have hcall : (Node.map [("Fn::Sub", .list [template, vars])]).IsCallOf .sub
      (.list [template, vars]) := .map .sub _
  obtain ⟨replaced, hreplaced, hresolve⟩ := hbound scope _ template vars _
    [("Name", .string "$\x7bItems\x7d")] letterCut hcall rfl rfl hexact rfl
  have hname := (hreplaced "Name".toList _).1 (.bound (by decide) rfl)
  have hescaped := (hreplaced "!Name".toList _).1 (.escaped _)
  have hitems := (hreplaced "Items".toList _).1 (.param (by decide) rfl rfl)
  have hunknown := (hreplaced "no one".toList _).1 (.unknown (by decide) rfl rfl)
  refine ⟨hexact, ?_, hsame scope _ _ template (.inr ⟨rfl, .call _ _⟩) (.call _ _)⟩
  rw [hresolve]
  show Except.ok (Value.string (String.ofList ([] ++ replaced "Name".toList ++ (", ".toList ++
    replaced "!Name".toList ++ ("\n$".toList ++ replaced "Items".toList ++ (" ".toList ++
    replaced "no one".toList ++ " $\x7bend".toList)))))) = _
  rw [← hname, ← hescaped, ← hitems, ← hunknown]
  rfl

end Node

end StackAudit
