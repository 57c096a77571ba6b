import StackAudit.Resolution.Scope

/-!
# Substitution in texts

A text with tokens `${name}` is cut into its tokens, each with the literal text before it, and the
literal text after the last one. A token ends at the first closing brace; an opening that is never
closed is literal text. What is put in for a token is not looked at again.
-/

namespace StackAudit

/-- A text cut at its tokens. -/
structure Substitution where
  /-- The literal texts before the tokens, and the tokens. -/
  tokens : List (List Char × List Char)
  /-- The literal text after the last token. -/
  tail : List Char

namespace Substitution

mutual

/-- Reads on after a piece of literal text, which is given in reverse order. -/
def readLiteral (literal : List Char) : List Char → Substitution
  | [] => ⟨[], literal.reverse⟩
  | '$' :: '{' :: rest => readToken literal [] rest
  | c :: rest => readLiteral (c :: literal) rest

/-- Reads on within a token; the literal text before it and its own characters so far are given in
reverse order. -/
def readToken (literal token : List Char) : List Char → Substitution
  | [] => ⟨[], literal.reverse ++ '$' :: '{' :: token.reverse⟩
  | '}' :: rest =>
    let after := readLiteral [] rest
    { after with tokens := (literal.reverse, token.reverse) :: after.tokens }
  | c :: rest => readToken literal (c :: token) rest

end

/-- Cuts a text at its tokens. -/
def ofText (text : List Char) : Substitution := readLiteral [] text

/-- Puts texts in for the tokens. -/
def fill (s : Substitution) (replacement : List Char → List Char) : List Char :=
  s.tokens.foldr (fun (literal, token) rest => literal ++ replacement token ++ rest) s.tail

/-- A token as it is written. -/
def written (token : List Char) : List Char := '$' :: '{' :: token ++ ['}']

/-- What a token stands for: without its exclamation mark, the token itself; or the text of the
variable, or else the parameter, that it names; or itself if it names neither. -/
def replacement (bound : List (String × Value)) (scope : Scope) (token : List Char) :
    List Char :=
  match token with
  | '!' :: literal => written literal
  | token =>
    let name := String.ofList token
    match (bound.lookup name).or (scope.params.get? name) with
    | some value => value.text.toList
    | none => written token

/-- Puts the texts of variables and parameters in for the tokens of a text. -/
def apply (bound : List (String × Value)) (scope : Scope) (text : String) : String :=
  String.ofList ((ofText text.toList).fill (replacement bound scope))

end Substitution

end StackAudit
