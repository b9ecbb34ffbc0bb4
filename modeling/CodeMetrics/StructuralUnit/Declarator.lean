import CodeMetrics.Cst
import CodeMetrics.Text.Split
import CodeMetrics.Text.Whitespace

/-!
# Declarators

What the declarator of a function says: which function it declares, under what name, and with how
many parameters.

* `Declarator.functionDeclarator?` – the innermost function declarator of a declarator;
* `Declarator.name?` – the name at the heart of a declarator;
* `Declarator.countParameters` – the number of parameters of a parameter list.
-/

namespace CodeMetrics.Declarator

open Cst

/-- The part of a declarator in which the function it declares is looked for. -/
def wrapped? (n : Node) : Option Node :=
  (n.childWithRole? .declarator <|> (n.childrenOfKind .functionDeclarator).head?) <|>
    n.children.reverse.find? fun c => c.kind == .other

theorem mem_of_wrapped? {n c : Node} (h : wrapped? n = some c) : c ∈ n.children := by
  simp only [wrapped?, Option.orElse_eq_orElse, Option.orElse_eq_or, Option.or_eq_some_iff] at h
  rcases h with (h | ⟨_, h⟩) | ⟨_, h⟩
  · exact Node.mem_of_childWithRole? h
  · exact Node.mem_of_mem_childrenOfKind (List.mem_of_head? h)
  · exact List.mem_reverse.1 (List.mem_of_find?_eq_some h)

/-- **The innermost function declarator** of a declarator, through pointers, references and
parentheses. A function that returns a pointer to a function is itself the innermost one. -/
def functionDeclarator? (n : Node) : Option Node :=
  if n.kind = .identifier then none
  else if n.kind = .functionDeclarator then
    match _h : n.childWithRole? .declarator with
    | some d => functionDeclarator? d <|> some n
    | none => some n
  else
    match _h : wrapped? n with
    | some d => functionDeclarator? d
    | none => none
termination_by sizeOf n
decreasing_by
  · exact Node.sizeOf_lt_of_mem_children (Node.mem_of_childWithRole? _h)
  · exact Node.sizeOf_lt_of_mem_children (mem_of_wrapped? _h)

/-- The part of a declarator in which its name is looked for. -/
def nameHolder? (n : Node) : Option Node :=
  n.childWithRole? .declarator <|> (n.childrenOfKind .identifier).head?

theorem mem_of_nameHolder? {n c : Node} (h : nameHolder? n = some c) : c ∈ n.children := by
  simp only [nameHolder?, Option.orElse_eq_orElse, Option.orElse_eq_or, Option.or_eq_some_iff] at h
  rcases h with h | ⟨_, h⟩
  · exact Node.mem_of_childWithRole? h
  · exact Node.mem_of_mem_childrenOfKind (List.mem_of_head? h)

/-- The name that a name-like text gives: what stands before its first parenthesis, without blanks
around it. The name of a conversion operator comes with its parameter list, which is cut here. -/
def nameOfText? (text : String) : Option String :=
  let cs := text.toList
  let head := match Text.splitFirst? ['('] cs with
    | some (before, _) => before
    | none => cs
  match Text.trim head with
  | [] => none
  | name => some (String.ofList name)

/-- **The name at the heart of a declarator.** -/
def name? (n : Node) : Option String :=
  if n.kind = .identifier then n.text.bind nameOfText?
  else
    match _h : nameHolder? n with
    | some d => name? d
    | none => none
termination_by sizeOf n
decreasing_by exact Node.sizeOf_lt_of_mem_children (mem_of_nameHolder? _h)

/-- Whether a parameter is the word `void` alone. -/
def isVoid (param : Node) : Bool :=
  (param.childWithRole? .declarator).isNone &&
    ((param.childWithRole? .type).bind Node.text) == some "void"

/-- **The number of parameters of a parameter list.** A single `void` is none. -/
def countParameters (list : Node) : Nat :=
  match list.childrenOfKind .parameter with
  | [only] => if isVoid only then 0 else 1
  | params => params.length

/-- The number of parameters that a callable's declarator gives; none without a list. -/
def parameterCount (declarator : Option Node) : Nat :=
  ((declarator.bind fun d => d.childWithRole? .parameters).map countParameters).getD 0

end CodeMetrics.Declarator
