import StatsLogApiGen.Writer.Constants

/-!
# Laws of constant names

A converted name has no lower case letters, and without lower case letters the scan
never owes an underscore, so it copies.  At an underscore nothing is owed either, so a
name is converted piece by piece between its underscores.
-/

namespace StatsLogApiGen.Writer

open StatsLogApiGen.Collation

/-- A letter that the scan turns into upper case. -/
def isLowerCase (c : Char) : Bool :=
  'a' ≤ c ∧ c ≤ 'z'

theorem le_iff_toNat_le {first second : Char} :
    first ≤ second ↔ first.toNat ≤ second.toNat := by
  rw [Char.le_def, UInt32.le_iff_toNat_le]
  rfl

theorem isLowerCase_of_isUpper {c : Char} (upper : 'A' ≤ c ∧ c ≤ 'Z') :
    isLowerCase c = false := by
  have last : c.toNat ≤ 90 := le_iff_toNat_le.mp upper.2
  have notLower : ¬('a' ≤ c ∧ c ≤ 'z') := by
    rintro ⟨first, -⟩
    have after : 97 ≤ c.toNat := le_iff_toNat_le.mp first
    omega
  simpa [isLowerCase] using notLower

/-- The scan replaces a lower case letter by an upper case one. -/
theorem isLowerCase_upperCase {c : Char} (lower : 'a' ≤ c ∧ c ≤ 'z') :
    isLowerCase (Char.ofNat ('A'.toNat + c.toNat - 'a'.toNat)) = false := by
  have first : 97 ≤ c.toNat := le_iff_toNat_le.mp lower.1
  have last : c.toNat ≤ 122 := le_iff_toNat_le.mp lower.2
  have number : 'A'.toNat + c.toNat - 'a'.toNat = c.toNat - 32 := by
    change 65 + c.toNat - 97 = c.toNat - 32
    omega
  have toNat : (Char.ofNat (c.toNat - 32)).toNat = c.toNat - 32 := by
    rw [Char.ofNat, dif_pos (Or.inl (by omega))]
    rfl
  apply isLowerCase_of_isUpper
  rw [number, le_iff_toNat_le, le_iff_toNat_le, toNat]
  change 65 ≤ c.toNat - 32 ∧ c.toNat - 32 ≤ 90
  omega

/-- Without lower case letters and with nothing owed, the scan copies. -/
theorem constantNameChars_of_noLowerCase {chars : List Char}
    (noLowerCase : ∀ c ∈ chars, isLowerCase c = false) :
    constantNameChars false chars = chars := by
  induction chars with
  | nil => rfl
  | cons c rest ih =>
      have here : ¬('a' ≤ c ∧ c ≤ 'z') := by
        simpa [isLowerCase] using noLowerCase c List.mem_cons_self
      have later := ih fun other member => noLowerCase other (List.mem_cons_of_mem c member)
      rw [constantNameChars, if_neg here, later]
      simp

/-- The scan leaves no lower case letter. -/
theorem constantNameChars_noLowerCase (underscoreNext : Bool) (chars : List Char) :
    ∀ c ∈ constantNameChars underscoreNext chars, isLowerCase c = false := by
  induction chars generalizing underscoreNext with
  | nil => nofun
  | cons c rest ih =>
      rw [constantNameChars]
      split_ifs with upper owed lower underscore
      · exact List.forall_mem_cons.mpr ⟨rfl, List.forall_mem_cons.mpr
          ⟨isLowerCase_of_isUpper upper, ih false⟩⟩
      · exact List.forall_mem_cons.mpr ⟨isLowerCase_of_isUpper upper, ih false⟩
      · exact List.forall_mem_cons.mpr ⟨isLowerCase_upperCase lower, ih true⟩
      · exact List.forall_mem_cons.mpr ⟨by rw [underscore]; rfl, ih false⟩
      · exact List.forall_mem_cons.mpr ⟨by simpa [isLowerCase] using lower, ih _⟩

theorem makeConstantName_idempotent (str : String) :
    makeConstantName (makeConstantName str) = makeConstantName str := by
  rw [makeConstantName, makeConstantName, String.toList_ofList]
  congr 1
  exact constantNameChars_of_noLowerCase (constantNameChars_noLowerCase false str.toList)

/-- The name of an enum value does not depend on whether the names of its message and
its enum are joined before they are converted or after. -/
theorem makeConstantName_enumValue (message enum value : String) :
    makeConstantName (message ++ "__" ++ enum) ++ "__" ++ makeConstantName value =
      (EnumValueName.mk message enum value).constant := by
  rw [makeConstantName_append]
  rfl

/-- The constants that the vendor Java writer prints for a field are those of the other
writers for a field with the name of the enum. -/
theorem vendorEnumConstants_eq (decl : AtomDecl) (field : AtomField) :
    vendorEnumConstants decl field =
      fieldEnumConstants decl { field with name := field.enumTypeName } := by
  apply List.map_congr_left
  intro value _
  rw [fullEnumTypeName, makeConstantName_append]

/-- Conversion is idempotent and splits at underscores, so constants of joined names and
joined constants are the same. -/
theorem convertsNames :
    (∀ str : String, makeConstantName (makeConstantName str) = makeConstantName str) ∧
      (∀ left right : String, makeConstantName (left ++ "_" ++ right) =
        makeConstantName left ++ "_" ++ makeConstantName right) ∧
      (∀ message enum value : String,
        makeConstantName (message ++ "__" ++ enum) ++ "__" ++ makeConstantName value =
          makeConstantName message ++ "__" ++ makeConstantName enum ++ "__" ++
            makeConstantName value) ∧
      ∀ (decl : AtomDecl) (field : AtomField),
        vendorEnumConstants decl field =
          fieldEnumConstants decl { field with name := field.enumTypeName } :=
  ⟨makeConstantName_idempotent, makeConstantName_append_underscore, makeConstantName_enumValue,
    vendorEnumConstants_eq⟩

end StatsLogApiGen.Writer
