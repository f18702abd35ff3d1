import VisualScript.Proofs.Graph.Numbering
import VisualScript.Proofs.Pass.Completeness

/-!
# Names of parameters

The names of parameters come up in two places. The header of a function counts the arguments and
declares a parameter for each; whoever reads a parameter goes by the key of an output and has to
read the number in it back. Both come to the same name.
-/

namespace VisualScript

/-! ## Numbers read back -/

namespace Text

theorem natOfDigits_toDigits (count : Nat) : natOfDigits (Nat.toDigits 10 count) = count := by
  have hread : Nat.ofDigitChars 10 (Nat.toDigits 10 count) 0 = count :=
    Nat.ofDigitChars_ten_toDigits
  rw [Nat.ofDigitChars_eq_foldl] at hread
  simpa only [natOfDigits, digitValue, Nat.mul_comm] using hread

/-- The decimal digits of a count are read back. -/
theorem count?_toDigits {count : Nat} (h : count ≤ largestCount) :
    count? (Nat.toDigits 10 count) = some count := by
  have hdigits : (Nat.toDigits 10 count).all Char.isDigit = true :=
    List.all_eq_true.mpr fun _ hmem => Nat.isDigit_of_mem_toDigits (by omega) (by omega) hmem
  have hsome : Nat.toDigits 10 count ≠ [] := Nat.toDigits_ne_nil
  unfold count?
  split
  next rest heq =>
    rw [heq] at hdigits
    cases hdigits
  next => simp [hdigits, hsome, natOfDigits_toDigits, h]

theorem le_largestCount_of_count? {text : List Char} {count : Nat} (h : count? text = some count) :
    count ≤ largestCount := by
  simp only [count?, Option.ite_none_left_eq_some, Option.ite_none_right_eq_some,
    Option.some.injEq] at h
  obtain ⟨_, hle, rfl⟩ := h
  exact hle

end Text

/-- The count in a data field is one of 64 bits. -/
theorem Node.count_le (node : Node) (key : String) : node.count key ≤ Text.largestCount := by
  unfold Node.count
  split
  next value hvalue =>
    cases hcount : value.toNat? with
    | none => exact Nat.zero_le _
    | some count =>
        cases value with
        | double => cases hcount
        | integer value =>
            simp only [Json.Number.toNat?] at hcount
            split at hcount
            next hfits =>
              cases hcount
              exact Int.toNat_le.mpr hfits.2
            next => cases hcount
  next value hvalue =>
    cases hcount : Text.count? (Text.trim value.toList) with
    | none => exact Nat.zero_le _
    | some count => exact Text.le_largestCount_of_count? hcount
  next => exact Nat.zero_le _

/-! ## Names -/

namespace Context

/-- Readers of an output see the parameter behind it under the name that it is declared with. -/
theorem parameterName?_exit (context : Context) (node : Node) {index : Nat}
    (h : index ≤ Text.largestCount) :
    Surroundings.parameterName? context.graph node.id (numbered keys.exit index) =
      some ((context.wiring node index).name index) := by
  have hstem : keys.exit.toList.isPrefixOf (keys.exit.toList ++ Nat.toDigits 10 index) = true :=
    List.isPrefixOf_iff_prefix.mpr (List.prefix_append _ _)
  rw [name_wiring, Surroundings.parameterName?]
  simp only [toList_numbered, hstem, List.drop_left, Text.count?_toDigits h, Bool.not_true,
    Bool.false_eq_true, if_false, Option.bind_eq_bind, Option.bind_some]
  cases context.graph.firstIncoming? node.id (numbered keys.argument index) with
  | none => rfl
  | some connection => rfl

end Context

/-- Whether a character is part of a name that is declared, and not of what follows it. -/
def isNamePart (c : Char) : Bool := c ≠ ' ' && c ≠ ':'

/-- The name that a declaration in the header of a function declares: what stands before its
default and its type. -/
def declaredName (declaration : String) : String :=
  String.ofList (declaration.toList.takeWhile isNamePart)

theorem isNamePart_of_isDigit {c : Char} (h : c.isDigit = true) : isNamePart c = true := by
  have hblank : c ≠ ' ' := by
    rintro rfl
    cases h
  have hcolon : c ≠ ':' := by
    rintro rfl
    cases h
  simp [isNamePart, hblank, hcolon]

/-- Only names stand before the blank or the colon behind a numbered name. -/
theorem declaredName_numbered {stem : String} (hstem : stem.toList.all isNamePart = true)
    (index : Nat) {rest : String} (hrest : rest.toList.takeWhile isNamePart = []) :
    declaredName (numbered stem index ++ rest) = numbered stem index := by
  have hname : ∀ c ∈ (numbered stem index).toList, isNamePart c = true := by
    intro c hmem
    rw [toList_numbered, List.mem_append] at hmem
    rcases hmem with hmem | hmem
    · exact List.all_eq_true.mp hstem c hmem
    · exact isNamePart_of_isDigit (Nat.isDigit_of_mem_toDigits (by omega) (by omega) hmem)
  rw [declaredName, String.toList_append, List.takeWhile_append_of_pos hname, hrest,
    List.append_nil, String.ofList_toList]

/-- A parameter is declared under its name. -/
theorem Wiring.declaredName_declaration (index : Nat) (wiring : Wiring) :
    declaredName (wiring.declaration index) = wiring.name index := by
  have hlocal : ∀ (source : NodeId) {rest : String}, rest.toList.takeWhile isNamePart = [] →
      declaredName (source.localName ++ rest) = source.localName :=
    fun source => declaredName_numbered (by decide) source.number
  have hkey : ∀ {rest : String}, rest.toList.takeWhile isNamePart = [] →
      declaredName (numbered keys.argument index ++ rest) = numbered keys.argument index :=
    declaredName_numbered (by decide) index
  cases wiring with
  | byLiteral source type literal =>
      rw [declaration, String.append_assoc]
      refine hlocal source ?_
      rw [String.toList_append]
      rfl
  | unsupported source component =>
      rw [declaration, ← String.append_empty (s := source.localName)]
      exact hlocal source rfl
  | typed type =>
      rw [declaration, String.append_assoc]
      refine hkey ?_
      rw [String.toList_append]
      rfl
  | untyped =>
      rw [declaration, ← String.append_empty (s := numbered keys.argument index)]
      exact hkey rfl

end VisualScript
