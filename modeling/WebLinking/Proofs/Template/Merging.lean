import WebLinking.Proofs.Template.Expansion
import WebLinking.Proofs.Template.Expression

/-!
# Expressions that are merged

Two expressions of one operator that stand side by side write the mark of the operator twice,
and the merged one writes a separator in place of the second mark. So merging changes nothing
if the two are the same, however many of the variables are defined on either side. For the
other operators a single defined variable on each side makes the difference.
-/

namespace WebLinking

namespace Operator

variable {operator : Operator}

/-- The mark of four operators is their separator. -/
theorem first_eq_separator_iff : operator.first = [operator.separator] ↔
    operator ∈ [.label, .path, .parameter, .continuation] := by
  cases operator <;> decide

/-- Parts are joined with those after them as both are joined by themselves, if the mark is the
separator. -/
theorem joined_append_of_first (hfirst : operator.first = [operator.separator])
    (parts more : List Text) :
    operator.joined (parts ++ more) = operator.joined parts ++ operator.joined more := by
  by_cases hparts : parts = []
  · subst hparts
    rfl
  · rw [joined_append hparts]
    cases more with
    | nil => rfl
    | cons part more =>
      simp only [joined, hfirst, List.isEmpty_cons, Bool.false_eq_true, if_false,
        Text.joinWith_cons, List.flatMap_cons, List.append_assoc]

/-- Two expressions of an operator side by side expand as the one with the variables of both. -/
def Merges (operator : Operator) : Prop :=
  ∀ vs ws : List Variable, vs ≠ [] → ws ≠ [] → (∀ v ∈ vs ++ ws, v.operator = operator) →
    ∀ (before after : List Segment) (values arguments : Bindings),
      Template.expand ⟨before ++ .group ⟨operator, vs ++ ws⟩ :: after⟩ values arguments =
        Template.expand ⟨before ++ .group ⟨operator, vs⟩ :: .group ⟨operator, ws⟩ :: after⟩
          values arguments

end Operator

/-- The variables of two lists expand in one expression as in two, if the operator's mark is its
separator. -/
theorem Group.expand_append {operator : Operator} (hfirst : operator.first = [operator.separator])
    (vs ws : List Variable) (lookup : Text → Value) :
    Group.expand ⟨operator, vs ++ ws⟩ lookup = do
      let left ← Group.expand ⟨operator, vs⟩ lookup
      let right ← Group.expand ⟨operator, ws⟩ lookup
      return left ++ right := by
  simp only [Group.expand_eq, Variable.renderings_append]
  cases Variable.renderings vs lookup with
  | error fault => rfl
  | ok parts =>
    cases Variable.renderings ws lookup with
    | error fault => rfl
    | ok more => exact congrArg Except.ok (Operator.joined_append_of_first hfirst parts more)

namespace Template

/-- Merging is a matter of the expressions alone, wherever they stand. -/
theorem expandWith_merged {operator : Operator} (hfirst : operator.first = [operator.separator])
    (vs ws : List Variable) (before after : List Segment) (lookup : Text → Value) :
    expandWith ⟨before ++ .group ⟨operator, vs ++ ws⟩ :: after⟩ lookup =
      expandWith ⟨before ++ .group ⟨operator, vs⟩ :: .group ⟨operator, ws⟩ :: after⟩ lookup := by
  rw [expandWith_append, expandWith_append, expandWith_cons, expandWith_cons, expandWith_cons]
  simp only [Segment.expand, Group.expand_append hfirst, bind_assoc, pure_bind, List.append_assoc]

end Template

namespace Operator

/-- Expressions may be merged exactly if their operator is one of those of labels, path segments,
path parameters and continued queries. -/
theorem merges_iff (operator : Operator) :
    operator.Merges ↔ operator ∈ [.label, .path, .parameter, .continuation] := by
  rw [← first_eq_separator_iff]
  constructor
  · intro h
    let v : Variable := Varspec.toVariable ⟨['a'], false, none⟩ operator
    let w : Variable := Varspec.toVariable ⟨['b'], false, none⟩ operator
    have hvs : ∀ u ∈ [v] ++ [w], u.operator = operator := by
      intro u hu
      rcases List.mem_pair.mp hu with rfl | rfl
      · exact Varspec.toVariable_operator _ operator
      · exact Varspec.toVariable_operator _ operator
    have hmerged := h [v] [w] (by simp) (by simp) hvs [] []
      [(['a'], .text ['1']), (['b'], .text ['2'])] []
    clear h hvs
    revert hmerged
    cases operator <;> decide +kernel
  · exact fun hfirst vs ws _ _ _ before after values arguments =>
      Template.expandWith_merged hfirst vs ws before after _

end Operator

end WebLinking
