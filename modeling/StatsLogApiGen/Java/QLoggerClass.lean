import StatsLogApiGen.Java.Run

/-!
# The class for devices up to Q

`write_java_q_logger_class` drops the error of `write_java_methods_q_schema`.  The
two switches of the Q-schema writer know the scalar types only.  A pushed method for Q
needs a case of `write_method_body` for every entry and an entry that is not repeated
for the call of `QLogger.write`, and these two checks leave the scalar types as well.
So both writers get through the same maps of signatures.
-/

namespace StatsLogApiGen.Java

open Std
open StatsLogApiGen.Container
open StatsLogApiGen.Collation
open StatsLogApiGen.Program
open StatsLogApiGen.Writer
open StatsLogApiGen.QSchema

/-- The types that the switch of `write_method_body` has a case for. -/
def isWritten : JavaType → Bool
  | .unknownOrInvalid | .double | .doubleArray | .enumArray | .object => false
  | _ => true

/-- The two checks of a pushed method for Q leave the types that the Q schema has. -/
theorem isWritten_and_not_repeated (type : JavaType) :
    (isWritten type && !type.isRepeatedField) = isScalarType type := by
  cases type <;> rfl

section Signatures

variable (constants : AnnotationIdConstants) (attributionDecl : AtomDecl)

theorem writeArg_isOk_eq (argIndex : Int) (type : JavaType) :
    (writeArg attributionDecl argIndex type).isOk = isWritten type := by
  cases type <;> rfl

theorem qLoggerArguments_isOk_eq (argIndex : Int) (type : JavaType) :
    (qLoggerArguments attributionDecl argIndex type).isOk = !type.isRepeatedField := by
  cases type <;> rfl

/-- A body is printed for the signatures over the written types. -/
theorem writeMethodBody_isOk_eq (signature : Signature) (declSets : FieldNumberToAtomDeclSet) :
    (writeMethodBody constants attributionDecl signature declSets).isOk =
      signature.all isWritten := by
  rw [writeMethodBody, isOk_map]
  apply writeArguments_isOk
  intro argIndex type _
  exact writeArg_isOk_eq attributionDecl argIndex type

/-- A pushed method for Q is printed for the signatures over the scalar types. -/
theorem writeJavaPushedMethod_apiQ_isOk (entry : Signature × FieldNumberToAtomDeclSet) :
    (writeJavaPushedMethod constants attributionDecl apiQ entry).isOk =
      entry.1.all isScalarType := by
  have body := writeMethodBody_isOk_eq constants attributionDecl entry.1 entry.2
  have call : (eachArg (qLoggerArguments attributionDecl) 1 entry.1).isOk =
      entry.1.all fun type => !type.isRepeatedField := by
    apply eachArg_isOk
    intro argIndex type _
    exact qLoggerArguments_isOk_eq attributionDecl argIndex type
  have both : entry.1.all isScalarType =
      (entry.1.all isWritten && entry.1.all fun type => !type.isRepeatedField) := by
    rw [Bool.eq_iff_iff, Bool.and_eq_true, List.all_eq_true, List.all_eq_true, List.all_eq_true,
      ← forall₂_and]
    simp only [← isWritten_and_not_repeated, Bool.and_eq_true]
  rw [both, ← body, ← call, writeJavaPushedMethod]
  cases writeMethodBody constants attributionDecl entry.1 entry.2 with
  | error reason => rfl
  | ok code =>
      cases eachArg (qLoggerArguments attributionDecl) 1 entry.1 with
      | error reason => rfl
      | ok arguments => rfl

/-- A method of `QLogger` is printed for the signatures over the scalar types. -/
theorem writeJavaMethodQSchema_isOk (entry : Signature × FieldNumberToAtomDeclSet) :
    (writeJavaMethodQSchema attributionDecl entry).isOk = entry.1.all isScalarType := by
  have sizes : (eachArg (sizeStatement attributionDecl) 1 entry.1).isOk =
      entry.1.all isScalarType := by
    apply eachArg_isOk
    intro argIndex type _
    exact sizeStatement_isOk attributionDecl argIndex type
  have writes : (eachArg (writeStatement attributionDecl) 1 entry.1).isOk =
      entry.1.all isScalarType := by
    apply eachArg_isOk
    intro argIndex type _
    exact writeStatement_isOk attributionDecl argIndex type
  rw [writeJavaMethodQSchema]
  cases sized : eachArg (sizeStatement attributionDecl) 1 entry.1 with
  | error reason =>
      rw [← sizes, sized]
      rfl
  | ok statements =>
      rw [← writes]
      exact isOk_map

end Signatures

/-! ## Maps -/

section Maps

variable (constants : AnnotationIdConstants) (attributionDecl : AtomDecl)
  (map : SignatureInfoMap)

/-- Both writers stop at a signature with a type outside the scalar ones, and at no
other. -/
theorem writeJavaPushedMethods_apiQ_isOk :
    (writeJavaPushedMethods constants attributionDecl apiQ map).isOk =
      (writeJavaMethodsQSchema map attributionDecl).isOk := by
  rw [writeJavaPushedMethods, mapM_isOk, writeJavaMethodsQSchema, isOk_map, mapM_isOk]
  simp only [writeJavaPushedMethod_apiQ_isOk, writeJavaMethodQSchema_isOk]

theorem exitStatus_writeJavaPushedMethods_apiQ :
    exitStatus (writeJavaPushedMethods constants attributionDecl apiQ map) =
      exitStatus (writeJavaMethodsQSchema map attributionDecl) := by
  have same := writeJavaPushedMethods_apiQ_isOk constants attributionDecl map
  cases pushed : writeJavaPushedMethods constants attributionDecl apiQ map <;>
    cases qSchema : writeJavaMethodsQSchema map attributionDecl <;>
    simp_all [exitStatus, Except.isOk, Except.toBool]

end Maps

/-- The error that is dropped is reported by the pushed methods: where the Q-schema
writer fails, they fail, and a class for Q without errors has all of `QLogger`. -/
theorem reportsQSchemaError (constants : AnnotationIdConstants) (attributionDecl : AtomDecl) :
    (∀ map : SignatureInfoMap,
      exitStatus (writeJavaMethodsQSchema map attributionDecl) ≠ 0 →
        exitStatus (writeJavaPushedMethods constants attributionDecl apiQ map) ≠ 0) ∧
      ∀ (atoms : Atoms) (supportWorkSource : Bool),
        (writeStatsLogJava constants atoms attributionDecl apiQ supportWorkSource).errors = 0 →
          ∃ qLogger, writeJavaMethodsQSchema atoms.signatureInfoMap attributionDecl = .ok qLogger ∧
            (writeStatsLogJava constants atoms attributionDecl apiQ supportWorkSource).qLogger =
              some qLogger := by
  constructor
  · intro map failed
    rw [exitStatus_writeJavaPushedMethods_apiQ]
    exact failed
  · intro atoms supportWorkSource noErrors
    have pushed : exitStatus (writeJavaPushedMethods constants attributionDecl apiQ
        atoms.signatureInfoMap) = 0 := by
      change exitStatus _ + exitStatus _ + exitStatus _ + exitStatus _ = 0 at noErrors
      omega
    rw [exitStatus_writeJavaPushedMethods_apiQ, exitStatus_eq_zero_iff] at pushed
    rcases isOk_iff_exists.mp pushed with ⟨qLogger, written⟩
    refine ⟨qLogger, written, ?_⟩
    change (if apiQ = apiQ then
      (writeJavaMethodsQSchema atoms.signatureInfoMap attributionDecl).map some
        else .ok none).toOption.join = some qLogger
    rw [if_pos rfl, written]
    rfl

/-- A map with a type that neither writer has a case for. -/
def doubleSignatures : SignatureInfoMap :=
  (∅ : SignatureInfoMap).insert [.int, .double] ∅

/-- Atoms whose one signature both writers accept. -/
def intAtoms : Atoms where
  signatureInfoMap := (∅ : SignatureInfoMap).insert [.int] ∅

theorem reportsQSchemaError_samples :
    exitStatus (writeJavaPushedMethods (getAnnotationIdConstants annotationConstantNamePrefix)
        attributionDecl apiQ doubleSignatures) ≠ 0 ∧
      ∃ qLogger,
        writeJavaMethodsQSchema intAtoms.signatureInfoMap attributionDecl = .ok qLogger ∧
          (writeStatsLogJava (getAnnotationIdConstants annotationConstantNamePrefix) intAtoms
            attributionDecl apiQ true).qLogger = some qLogger :=
  ⟨(reportsQSchemaError _ _).1 doubleSignatures (by decide),
    (reportsQSchemaError _ _).2 intAtoms true (by decide)⟩

end StatsLogApiGen.Java
