import Mathlib.Data.List.ReduceOption
import StatsLogApiGen.Program.Guarded

/-!
# Transcripts

What a run of guarded calls has done is of interest also when a step fails and the run
stops there.  The transcript of a run has the events up to the first failing step.
-/

namespace StatsLogApiGen.Program

universe u v w x

variable {κ : Type u} {α : Type v} {β : Type w} {ε : Type x}

/-! ## Runs that may stop -/

/-- The events of a run with the reason why it stops, if it does not get to its end. -/
def transcript (recorder : Recorder κ α β ε) : Code κ α → List β × Option ε
  | .skip => ([], none)
  | .call action =>
      match recorder.event action with
      | .ok event => ([event], none)
      | .error reason => ([], some reason)
  | .seq first second =>
      match transcript recorder first with
      | (events, some reason) => (events, some reason)
      | (events, none) =>
          (events ++ (transcript recorder second).1, (transcript recorder second).2)
  | .when condition body =>
      match recorder.holds condition with
      | .ok true => transcript recorder body
      | .ok false => ([], none)
      | .error reason => ([], some reason)

section Transcript

variable {recorder : Recorder κ α β ε} {first second : Code κ α}

theorem transcript_seq_of_none (ends : (transcript recorder first).2 = none) :
    transcript recorder (.seq first second) =
      ((transcript recorder first).1 ++ (transcript recorder second).1,
        (transcript recorder second).2) := by
  rw [transcript]
  split
  · rename_i isSome
    rw [isSome] at ends
    cases ends
  · rename_i isNone
    rw [isNone]

theorem transcript_seq_of_some {reason : ε}
    (stops : (transcript recorder first).2 = some reason) :
    transcript recorder (.seq first second) = ((transcript recorder first).1, some reason) := by
  rw [transcript]
  split
  · rename_i isSome
    rw [isSome] at stops
    cases stops
    rw [isSome]
  · rename_i isNone
    rw [isNone] at stops
    cases stops

/-- A run ends with the events of its transcript, or it fails where the transcript stops. -/
theorem run_eq_transcript (code : Code κ α) (trace : List β) :
    run recorder.interpreter code trace =
      match (transcript recorder code).2 with
      | none => .ok (trace ++ (transcript recorder code).1)
      | some reason => .error reason := by
  induction code generalizing trace with
  | skip => simp [transcript]
  | call action =>
      change (recorder.event action).map (fun event => trace ++ [event]) = _
      rw [transcript]
      cases recorder.event action <;> rfl
  | seq first second firstRun secondRun =>
      rw [run, firstRun]
      cases stops : (transcript recorder first).2 with
      | some reason =>
          rw [transcript_seq_of_some stops]
          rfl
      | none =>
          rw [transcript_seq_of_none stops]
          change run recorder.interpreter second (trace ++ (transcript recorder first).1) = _
          rw [secondRun, List.append_assoc]
  | when condition body bodyRun =>
      change (recorder.holds condition).bind _ = _
      rw [transcript]
      cases recorder.holds condition with
      | error reason => rfl
      | ok isTrue =>
          cases isTrue with
          | true => exact bodyRun trace
          | false => simp [Except.bind]

/-- Every event of a transcript is the one of an action in the code. -/
theorem exists_action_of_mem_transcript {code : Code κ α} {event : β}
    (member : event ∈ (transcript recorder code).1) :
    ∃ action ∈ code.actions, recorder.event action = .ok event := by
  induction code with
  | skip => cases member
  | call action =>
      rw [transcript] at member
      cases called : recorder.event action with
      | error reason =>
          rw [called] at member
          cases member
      | ok performed =>
          rw [called, List.mem_singleton] at member
          exact ⟨action, List.mem_singleton_self action, by rw [called, member]⟩
  | seq first second inFirst inSecond =>
      rw [Code.actions]
      cases stops : (transcript recorder first).2 with
      | some reason =>
          rw [transcript_seq_of_some stops] at member
          rcases inFirst member with ⟨action, listed, called⟩
          exact ⟨action, List.mem_append_left _ listed, called⟩
      | none =>
          rw [transcript_seq_of_none stops, List.mem_append] at member
          rcases member with earlier | later
          · rcases inFirst earlier with ⟨action, listed, called⟩
            exact ⟨action, List.mem_append_left _ listed, called⟩
          · rcases inSecond later with ⟨action, listed, called⟩
            exact ⟨action, List.mem_append_right _ listed, called⟩
  | when condition body inBody =>
      rw [transcript] at member
      split at member
      · exact inBody member
      · cases member
      · cases member

/-- A run whose steps cannot fail gets to its end. -/
theorem transcript_ends {code : Code κ α}
    (decided : ∀ condition, ∃ isTrue, recorder.holds condition = .ok isTrue)
    (called : ∀ action ∈ code.actions, ∃ event, recorder.event action = .ok event) :
    (transcript recorder code).2 = none := by
  induction code with
  | skip => rfl
  | call action =>
      rcases called action (List.mem_singleton_self action) with ⟨event, isEvent⟩
      rw [transcript, isEvent]
  | seq first second firstEnds secondEnds =>
      have ends := firstEnds fun action member => called action (List.mem_append_left _ member)
      rw [transcript_seq_of_none ends]
      exact secondEnds fun action member => called action (List.mem_append_right _ member)
  | when condition body bodyEnds =>
      rcases decided condition with ⟨isTrue, holds⟩
      rw [transcript, holds]
      cases isTrue with
      | true => exact bodyEnds called
      | false => rfl

theorem transcript_block_append_of_none {before after : List (Code κ α)}
    (ends : (transcript recorder (.block before)).2 = none) :
    transcript recorder (.block (before ++ after)) =
      ((transcript recorder (.block before)).1 ++ (transcript recorder (.block after)).1,
        (transcript recorder (.block after)).2) := by
  induction before with
  | nil => rfl
  | cons head rest ih =>
      change transcript recorder (.seq head (.block (rest ++ after))) = _
      rw [Code.block] at ends ⊢
      cases stops : (transcript recorder head).2 with
      | some reason =>
          rw [transcript_seq_of_some stops] at ends
          cases ends
      | none =>
          rw [transcript_seq_of_none stops] at ends ⊢
          rw [transcript_seq_of_none stops, ih ends, List.append_assoc]

end Transcript

/-! ## Visible events -/

section Visible

variable {recorder : Recorder κ α (Option β) ε}

/-- The visible events of a run, whether it gets to its end or not. -/
def visibleEvents (recorder : Recorder κ α (Option β) ε) (code : Code κ α) : List β :=
  (transcript recorder code).1.reduceOption

/-- No action of the code is visible. -/
def Quiet (recorder : Recorder κ α (Option β) ε) (code : List (Code κ α)) : Prop :=
  AllActions (fun action => ∀ event, recorder.event action ≠ .ok (some event)) code

/-- No action of the code is visible or fails. -/
def Silent (recorder : Recorder κ α (Option β) ε) (code : List (Code κ α)) : Prop :=
  AllActions (fun action => recorder.event action = .ok none) code

theorem Silent.quiet {code : List (Code κ α)} (silent : Silent recorder code) :
    Quiet recorder code := by
  intro statement member action listed event isEvent
  rw [silent statement member action listed] at isEvent
  cases isEvent

theorem Quiet.visibleEvents_eq_nil {code : List (Code κ α)} (quiet : Quiet recorder code) :
    visibleEvents recorder (.block code) = [] := by
  rw [List.eq_nil_iff_forall_not_mem]
  intro event member
  rw [visibleEvents, List.reduceOption_mem_iff] at member
  rcases exists_action_of_mem_transcript member with ⟨action, listed, called⟩
  exact allActions_block.mp quiet action listed event called

section Single

variable {before after : List (Code κ α)} {action : α}
  (decided : ∀ condition, ∃ isTrue, recorder.holds condition = .ok isTrue)
  (silent : Silent recorder before)

include decided silent

/-- After actions that are not visible, a run goes on. -/
theorem visibleEvents_append (after : List (Code κ α)) :
    visibleEvents recorder (.block (before ++ after)) = visibleEvents recorder (.block after) := by
  have ends := transcript_ends decided fun other member =>
    ⟨none, allActions_block.mp silent other member⟩
  have nothing := silent.quiet.visibleEvents_eq_nil
  rw [visibleEvents] at nothing
  rw [visibleEvents, transcript_block_append_of_none ends, List.reduceOption_append, nothing,
    List.nil_append, visibleEvents]

/-- Between actions that are not visible, the only visible event is the one of an action. -/
theorem visibleEvents_of_event {event : Option β} (called : recorder.event action = .ok event)
    (quiet : Quiet recorder after) :
    visibleEvents recorder (.block (before ++ .call action :: after)) = event.toList := by
  have goesOn : (transcript recorder (.call action)).2 = none := by rw [transcript, called]
  have later := quiet.visibleEvents_eq_nil
  rw [visibleEvents] at later
  rw [visibleEvents_append decided silent, visibleEvents, Code.block,
    transcript_seq_of_none goesOn, transcript, called, List.reduceOption_append, later,
    List.append_nil]
  cases event <;> rfl

/-- Nothing is visible when the run stops after actions that are not. -/
theorem visibleEvents_of_failure {reason : ε} (failed : recorder.event action = .error reason) :
    visibleEvents recorder (.block (before ++ .call action :: after)) = [] := by
  have stops : (transcript recorder (.call action)).2 = some reason := by
    rw [transcript, failed]
  rw [visibleEvents_append decided silent, visibleEvents, Code.block,
    transcript_seq_of_some stops, transcript, failed]
  rfl

end Single

end Visible

end StatsLogApiGen.Program
