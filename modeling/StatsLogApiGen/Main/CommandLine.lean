import StatsLogApiGen.Main.Run
import StatsLogApiGen.Program.CommandLine

/-!
# The command line

`run` from the command line on.  Its loop has a branch for every option and none for
other tokens: it goes on after a token that it does not know, and the test for an
unknown argument that follows the loop finds all tokens read.
-/

namespace StatsLogApiGen.Main

open StatsLogApiGen.Proto
open StatsLogApiGen.Collation
open StatsLogApiGen.Program
open StatsLogApiGen.Writer

/-! ## Options -/

def isSpace (c : Char) : Bool :=
  c = ' ' ∨ '\t' ≤ c ∧ c ≤ '\r'

def digitsValue (chars : List Char) : Int :=
  (chars.takeWhile Char.isDigit).foldl
    (fun number digit => 10 * number + (digit.toNat - '0'.toNat : Nat)) 0

/-- `strtol` to the base 10.  A number that no `long` can hold becomes the nearest one. -/
def strtol (text : String) : Int :=
  let number :=
    match text.toList.dropWhile isSpace with
    | '-' :: digits => -digitsValue digits
    | '+' :: digits => digitsValue digits
    | digits => digitsValue digits
  max (-2 ^ 63) (min number (2 ^ 63 - 1))

/-- `atoi`, which cuts a `long` to an `int`. -/
def atoi (text : String) : Int :=
  (strtol text).bmod (2 ^ 32)

example : atoi "4294967325" = apiQ := by decide

/-- What the loop does at an option. -/
inductive OptionAction where
  | help
  | set (change : Request → Request)
  | setValue (change : String → Request → Request)

def OptionAction.kind : OptionAction → OptionKind
  | .help => .stop
  | .set _ => .flag
  | .setValue _ => .value

def Request.setFilename (request : Request) (output : Output) (filename : String) : Request :=
  { request with
    filename := fun other => if other = output then filename else request.filename other }

/-- The branches of the loop.  Only a generator `WITH_VENDOR` has the last one. -/
def option? (withVendor : Bool) : String → Option OptionAction
  | "--help" => some .help
  | "--cpp" => some (.setValue fun value request => request.setFilename .cpp value)
  | "--header" => some (.setValue fun value request => request.setFilename .header value)
  | "--java" => some (.setValue fun value request => request.setFilename .java value)
  | "--rust" => some (.setValue fun value request => request.setFilename .rust value)
  | "--rustHeader" =>
      some (.setValue fun value request => request.setFilename .rustHeader value)
  | "--rustHeaderCrate" =>
      some (.setValue fun value request => { request with rustHeaderCrate := value })
  | "--module" => some (.setValue fun value request => { request with moduleName := value })
  | "--namespace" => some (.setValue fun value request => { request with cppNamespace := value })
  | "--importHeader" =>
      some (.setValue fun value request => { request with cppHeaderImport := value })
  | "--javaPackage" => some (.setValue fun value request => { request with javaPackage := value })
  | "--javaClass" => some (.setValue fun value request => { request with javaClass := value })
  | "--supportQ" => some (.set fun request => { request with minApiLevel := apiQ })
  | "--worksource" => some (.set fun request => { request with supportWorkSource := true })
  | "--minApiLevel" =>
      some (.setValue fun value request =>
        if value = "current" then request else { request with minApiLevel := atoi value })
  | "--bootstrap" => some (.set fun request => { request with bootstrap := true })
  | "--vendor-proto" =>
      if withVendor then
        some (.setValue fun value request => { request with vendorProto := value })
      else
        none
  | _ => none

/-- How the loop ends. -/
inductive Reading where
  | help
  | missingValue
  | finished (request : Request) (remaining : List String)

/-- The loop over the tokens that are left.  A token without a branch is skipped. -/
def readOptions (withVendor : Bool) : Request → List String → Reading
  | request, [] => .finished request []
  | request, token :: rest =>
      match option? withVendor token with
      | some .help => .help
      | some (.set change) => readOptions withVendor (change request) rest
      | some (.setValue change) =>
          match rest with
          | [] => .missingValue
          | value :: rest => readOptions withVendor (change value request) rest
      | none => readOptions withVendor request rest

/-! ## Checks -/

/-- What `run` prints about a command line that it refuses. -/
inductive ArgumentError where
  | unknownArgument
  | olderApiLevels (moduleName : String)
  | preQ
  | bootstrapOutputs
  | bootstrapWorkSource
  | bootstrapApiLevels
  deriving DecidableEq, Repr

def ArgumentError.text : ArgumentError → String
  | .unknownArgument => "Error: Unknown command line argument\n"
  | .olderApiLevels moduleName => moduleName ++ " cannot support older API levels\n"
  | .preQ => "minApiLevel must be " ++ toString apiQ ++ " or higher.\n"
  | .bootstrapOutputs => "Bootstrap flag can only be used for cpp/header files.\n"
  | .bootstrapWorkSource => "Bootstrap flag does not support worksources"
  | .bootstrapApiLevels => "Bootstrap flag does not support older API levels"

namespace Request

def requestsOutput (request : Request) : Bool :=
  outputs.any request.isRequested

/-- The checks of the module, the API level and the bootstrap flag. -/
def argumentError? (request : Request) : Option ArgumentError :=
  if request.moduleName = defaultModuleName ∧ request.minApiLevel ≠ apiLevelCurrent then
    some (.olderApiLevels request.moduleName)
  else if request.minApiLevel < apiQ then
    some .preQ
  else if request.bootstrap then
    if ¬request.isRequested .cpp ∧ ¬request.isRequested .header then some .bootstrapOutputs
    else if request.supportWorkSource then some .bootstrapWorkSource
    else if request.minApiLevel ≠ apiLevelCurrent then some .bootstrapApiLevels
    else none
  else
    none

end Request

/-- What a whole run leaves: whether it prints the usage, what it prints about its
arguments, and the outcome. -/
structure ArgvOutcome where
  usage : Bool := false
  error : Option ArgumentError := none
  outcome : Outcome

section Run

variable (withVendor : Bool) (opens : String → Bool) (atomDescriptor : String → AtomDescriptor)

/-- `run` on an argument vector, whose first element is the program.  `atomDescriptor`
finds the `Atom` message for the path of a vendor proto, which is empty for the message
of the generator. -/
def runArgv (argv : List String) : ArgvOutcome :=
  match readOptions withVendor {} (argv.drop 1) with
  | .help => { usage := true, outcome := ⟨0, [], []⟩ }
  | .missingValue => { usage := true, outcome := ⟨1, [], []⟩ }
  | .finished request remaining =>
      if remaining ≠ [] then
        { usage := true, error := some .unknownArgument, outcome := ⟨1, [], []⟩ }
      else if !request.requestsOutput then
        { usage := true, outcome := ⟨1, [], []⟩ }
      else
        match request.argumentError? with
        | some error => { error := some error, outcome := ⟨1, [], []⟩ }
        | none => { outcome := run opens (atomDescriptor request.vendorProto) request }

end Run

/-! ## Items -/

section Items

variable (withVendor : Bool)

/-- What a token is followed by when it is an option. -/
def kind? (token : String) : Option OptionKind :=
  (option? withVendor token).map OptionAction.kind

/-- What an item does to the request. -/
def applyItem (request : Request) : CommandItem String → Request
  | .flag option =>
      match option? withVendor option with
      | some (.set change) => change request
      | _ => request
  | .value option value =>
      match option? withVendor option with
      | some (.setValue change) => change value request
      | _ => request
  | _ => request

/-- How the loop ends on tokens with some items. -/
inductive ReadsTo (request : Request) (tokens : List String) : Reading → Prop where
  | help (isStopped : IsStopped (kind? withVendor) tokens)
      (isComplete : ¬IsIncomplete (kind? withVendor) tokens) : ReadsTo request tokens .help
  | missingValue (isIncomplete : IsIncomplete (kind? withVendor) tokens) :
      ReadsTo request tokens .missingValue
  | finished (notStopped : ¬IsStopped (kind? withVendor) tokens)
      (isComplete : ¬IsIncomplete (kind? withVendor) tokens) :
      ReadsTo request tokens
        (.finished ((commandItems (kind? withVendor) tokens).foldl (applyItem withVendor) request)
          [])

variable {withVendor}

/-- An item in front that neither stops the loop nor lacks a value is applied, and the loop
goes on. -/
theorem ReadsTo.cons {request : Request} {tokens rest : List String} {reading : Reading}
    {item : CommandItem String}
    (items : commandItems (kind? withVendor) tokens =
      item :: commandItems (kind? withVendor) rest)
    (notStop : ∀ option, item ≠ .stop option) (notIncomplete : ∀ option, item ≠ .incomplete option)
    (reads : ReadsTo withVendor (applyItem withVendor request item) rest reading) :
    ReadsTo withVendor request tokens reading := by
  have stopped : IsStopped (kind? withVendor) tokens ↔ IsStopped (kind? withVendor) rest := by
    simp only [IsStopped, items, List.mem_cons, (notStop _).symm, false_or]
  have incomplete :
      IsIncomplete (kind? withVendor) tokens ↔ IsIncomplete (kind? withVendor) rest := by
    simp only [IsIncomplete, items, List.mem_cons, (notIncomplete _).symm, false_or]
  cases reads with
  | help isStopped isComplete =>
      exact .help (stopped.mpr isStopped) (mt incomplete.mp isComplete)
  | missingValue isIncomplete => exact .missingValue (incomplete.mpr isIncomplete)
  | finished notStopped isComplete =>
      have finished := @ReadsTo.finished withVendor request tokens (mt stopped.mp notStopped)
        (mt incomplete.mp isComplete)
      rw [items] at finished
      exact finished

theorem kind?_of_option? {token : String} {action : OptionAction}
    (isOption : option? withVendor token = some action) :
    kind? withVendor token = some action.kind := by
  rw [kind?, isOption, Option.map_some]

/-- The loop reads the items one after the other. -/
theorem readsTo_readOptions (request : Request) (tokens : List String) :
    ReadsTo withVendor request tokens (readOptions withVendor request tokens) := by
  induction request, tokens using readOptions.induct withVendor with
  | case1 request =>
      apply ReadsTo.finished
      · rintro ⟨option, member⟩
        cases member
      · rintro ⟨option, member⟩
        cases member
  | case2 request token rest isHelp =>
      have items := commandItems_stop (kind?_of_option? isHelp) rest
      rw [readOptions.eq_def]
      simp only [isHelp]
      exact .help ⟨token, by simp [items]⟩ (by simp [IsIncomplete, items])
  | case3 request token rest change isFlag ih =>
      rw [readOptions.eq_def]
      simp only [isFlag]
      apply ReadsTo.cons (commandItems_flag (kind?_of_option? isFlag) rest) nofun nofun
      simpa [applyItem, isFlag] using ih
  | case4 request token change isValue =>
      have items := commandItems_incomplete (kind?_of_option? isValue)
      rw [readOptions.eq_def]
      simp only [isValue]
      exact .missingValue ⟨token, by simp [items]⟩
  | case5 request token change isValue value rest ih =>
      rw [readOptions.eq_def]
      simp only [isValue]
      apply ReadsTo.cons (commandItems_value (kind?_of_option? isValue) value rest) nofun nofun
      simpa [applyItem, isValue] using ih
  | case6 request token rest isUnknown ih =>
      have noKind : kind? withVendor token = none := by rw [kind?, isUnknown, Option.map_none]
      rw [readOptions.eq_def]
      simp only [isUnknown]
      exact ReadsTo.cons (commandItems_unknown noKind rest) nofun nofun ih

/-! ## Requested outputs -/

/-- The option that requests an output. -/
def outputOption : Output → String
  | .cpp => "--cpp"
  | .header => "--header"
  | .java => "--java"
  | .rust => "--rust"
  | .rustHeader => "--rustHeader"

theorem option?_outputOption (output : Output) :
    option? withVendor (outputOption output) =
      some (.setValue fun value request => request.setFilename output value) := by
  cases output <;> rfl

/-- A branch that consumes a value sets the filename of its output, or leaves the filenames
as they are. -/
theorem option?_setValue_cases {option : String} {change : String → Request → Request}
    (isValue : option? withVendor option = some (.setValue change)) :
    (∃ output, option = outputOption output ∧
      change = fun value request => request.setFilename output value) ∨
        ∀ value request, (change value request).filename = request.filename := by
  unfold option? at isValue
  split at isValue
  case h_2 => cases isValue; exact Or.inl ⟨.cpp, rfl, rfl⟩
  case h_3 => cases isValue; exact Or.inl ⟨.header, rfl, rfl⟩
  case h_4 => cases isValue; exact Or.inl ⟨.java, rfl, rfl⟩
  case h_5 => cases isValue; exact Or.inl ⟨.rust, rfl, rfl⟩
  case h_6 => cases isValue; exact Or.inl ⟨.rustHeader, rfl, rfl⟩
  case h_15 =>
      cases isValue
      refine Or.inr fun value request => ?_
      change (if value = "current" then request else _ : Request).filename = request.filename
      split <;> rfl
  case h_17 =>
      split at isValue
      · cases isValue
        exact Or.inr fun _ _ => rfl
      · cases isValue
  -- The other values are for fields that name no output.
  all_goals cases isValue
  all_goals exact Or.inr fun _ _ => rfl

theorem filename_set {option : String} {change : Request → Request}
    (isFlag : option? withVendor option = some (.set change)) (request : Request) :
    (change request).filename = request.filename := by
  unfold option? at isFlag
  split at isFlag
  case h_17 => split at isFlag <;> cases isFlag
  all_goals cases isFlag
  all_goals rfl

/-- An item changes the filename of an output when it gives a value to its option. -/
theorem filename_applyItem (output : Output) (request : Request) (item : CommandItem String) :
    (applyItem withVendor request item).filename output =
      (item.valueOf (outputOption output)).getD (request.filename output) := by
  cases item with
  | unknown token => rfl
  | stop option => rfl
  | incomplete option => rfl
  | flag option =>
      cases isOption : option? withVendor option with
      | none => simp only [applyItem, isOption, CommandItem.valueOf, Option.getD_none]
      | some action =>
          cases action with
          | set change =>
              simp only [applyItem, isOption, CommandItem.valueOf, Option.getD_none]
              rw [filename_set isOption]
          | _ => simp only [applyItem, isOption, CommandItem.valueOf, Option.getD_none]
  | value option value =>
      by_cases isOutput : option = outputOption output
      · subst isOutput
        simp only [applyItem, option?_outputOption, CommandItem.valueOf, if_true,
          Option.getD_some]
        exact if_pos rfl
      · simp only [CommandItem.valueOf, if_neg isOutput, Option.getD_none]
        cases isOption : option? withVendor option with
        | none => simp only [applyItem, isOption]
        | some action =>
            cases action with
            | setValue change =>
                simp only [applyItem, isOption]
                rcases option?_setValue_cases isOption with ⟨other, isOther, rfl⟩ | same
                · have different : output ≠ other := fun equal => isOutput (equal ▸ isOther)
                  exact if_neg different
                · rw [same]
            | _ => simp only [applyItem, isOption]

end Items

/-! ## Unknown arguments -/

section Unknown

variable (withVendor : Bool) (opens : String → Bool) (atomDescriptor : String → AtomDescriptor)
  (argv : List String)

/-- The last filename that the tokens after the program give to an output is empty, or there
is none. -/
def NamesNoOutput : Prop :=
  ∀ output, (lastValue (outputOption output)
    (commandItems (kind? withVendor) (argv.drop 1))).getD "" = ""

/-- An unknown token is answered with the usage and the status 1, and nothing is
generated. -/
def RejectsUnknown : Prop :=
  HasUnknown (kind? withVendor) (argv.drop 1) →
    let result := runArgv withVendor opens atomDescriptor argv
    result.usage = true ∧ result.outcome.status = 1 ∧ result.outcome.files = []

variable {withVendor opens atomDescriptor argv}

theorem requestsOutput_eq_false_iff :
    ((commandItems (kind? withVendor) (argv.drop 1)).foldl (applyItem withVendor)
      {}).requestsOutput = false ↔ NamesNoOutput withVendor argv := by
  have filename (output : Output) :
      ((commandItems (kind? withVendor) (argv.drop 1)).foldl (applyItem withVendor)
        {}).filename output =
          (lastValue (outputOption output) (commandItems (kind? withVendor) (argv.drop 1))).getD
            "" :=
    @foldl_eq_lastValue _ _ _ _ (fun request : Request => request.filename output) _
      (filename_applyItem output) _ {}
  rw [Request.requestsOutput, List.any_eq_false, NamesNoOutput]
  simp only [Request.isRequested, filename, decide_eq_true_eq, not_not]
  constructor
  · intro none output
    exact none output (by cases output <;> decide)
  · exact fun none output _ => none output

/-- A run that requests no output prints the usage. -/
theorem runArgv_noOutput {request : Request}
    (read : readOptions withVendor {} (argv.drop 1) = .finished request [])
    (noOutput : request.requestsOutput = false) :
    runArgv withVendor opens atomDescriptor argv =
      { usage := true, outcome := ⟨1, [], []⟩ } := by
  rw [runArgv, read]
  simp only [ne_eq, not_true_eq_false, if_false, noOutput, Bool.not_false, if_true]

/-- A run that requests an output does not print the usage. -/
theorem runArgv_usage_eq_false {request : Request}
    (read : readOptions withVendor {} (argv.drop 1) = .finished request [])
    (requested : request.requestsOutput = true) :
    (runArgv withVendor opens atomDescriptor argv).usage = false := by
  rw [runArgv, read]
  simp only [ne_eq, not_true_eq_false, if_false, requested, Bool.not_true, Bool.false_eq_true]
  cases request.argumentError? <;> rfl

/-- Unknown tokens are rejected only when the command line has another fault that is
answered with the usage. -/
theorem rejectsUnknown_iff :
    RejectsUnknown withVendor opens atomDescriptor argv ↔
      ¬HasUnknown (kind? withVendor) (argv.drop 1) ∨
        IsIncomplete (kind? withVendor) (argv.drop 1) ∨
          ¬IsStopped (kind? withVendor) (argv.drop 1) ∧ NamesNoOutput withVendor argv := by
  have reads := @readsTo_readOptions withVendor {} (argv.drop 1)
  cases read : readOptions withVendor {} (argv.drop 1) with
  | help =>
      rw [read] at reads
      cases reads with
      | help isStopped isComplete =>
          have status : (runArgv withVendor opens atomDescriptor argv).outcome.status = 0 := by
            rw [runArgv, read]
          constructor
          · intro rejects
            left
            intro hasUnknown
            have rejected := (rejects hasUnknown).2.1
            omega
          · rintro (noUnknown | isIncomplete | ⟨notStopped, -⟩) hasUnknown
            · exact absurd hasUnknown noUnknown
            · exact absurd isIncomplete isComplete
            · exact absurd isStopped notStopped
  | missingValue =>
      rw [read] at reads
      cases reads with
      | missingValue isIncomplete =>
          have result : runArgv withVendor opens atomDescriptor argv =
              { usage := true, outcome := ⟨1, [], []⟩ } := by
            rw [runArgv, read]
          refine iff_of_true (fun _ => ?_) (Or.inr (Or.inl isIncomplete))
          rw [result]
          exact ⟨rfl, rfl, rfl⟩
  | finished request remaining =>
      rw [read] at reads
      cases reads with
      | finished notStopped isComplete =>
          cases requested : ((commandItems (kind? withVendor) (argv.drop 1)).foldl
              (applyItem withVendor) {}).requestsOutput with
          | false =>
              have namesNone := requestsOutput_eq_false_iff.mp requested
              refine iff_of_true (fun _ => ?_) (Or.inr (Or.inr ⟨notStopped, namesNone⟩))
              rw [runArgv_noOutput read requested]
              exact ⟨rfl, rfl, rfl⟩
          | true =>
              have usage : (runArgv withVendor opens atomDescriptor argv).usage = false :=
                runArgv_usage_eq_false read requested
              constructor
              · intro rejects
                left
                intro hasUnknown
                have printed := (rejects hasUnknown).1
                rw [usage] at printed
                contradiction
              · rintro (noUnknown | isIncomplete | ⟨-, namesNone⟩) hasUnknown
                · exact absurd hasUnknown noUnknown
                · exact absurd isIncomplete isComplete
                · rw [← requestsOutput_eq_false_iff, requested] at namesNone
                  contradiction

end Unknown

/-- An argument vector with a misspelt option. -/
def misspeltArgv : List String :=
  ["stats-log-api-gen", "--cpp", "statslog.cpp", "--modul", "car"]

/-- The generator ignores the misspelt option and writes the file for the default module. -/
theorem not_rejectsUnknown_misspeltArgv :
    (runArgv false (fun _ => true) (fun _ => wakelockDescriptor) misspeltArgv).outcome.status = 0 ∧
      (runArgv false (fun _ => true) (fun _ => wakelockDescriptor)
        misspeltArgv).outcome.files.map Prod.fst = [.cpp] ∧
      ¬RejectsUnknown false (fun _ => true) (fun _ => wakelockDescriptor) misspeltArgv := by
  refine ⟨by decide, by decide, fun rejects => ?_⟩
  have rejected := rejects ⟨"--modul", by decide⟩
  exact absurd rejected.1 (by decide)

end StatsLogApiGen.Main
