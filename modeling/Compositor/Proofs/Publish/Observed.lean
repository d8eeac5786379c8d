import Compositor.CommandLine.Run
import Compositor.Proofs.Publish.Course

/-! Publications whose events are kept in a list, and those of the command line, which keeps only
whether the markup is written. -/

namespace Compositor

variable {Heard State : Type}

namespace Publication

variable {system : System (StateM State)} {observe : Event → StateT Heard (StateM State) Unit}
  {publication : Publication}

theorem Performed.heard (hear : Heard → Event → Heard)
    (hears : ∀ event before after, Leads (observe event) before () after →
      after.1 = hear before.1 event)
    {before after : Heard × State} {trace : List Action}
    (performed : Performed system observe publication before trace after) :
    after.1 = (events trace).foldl hear before.1 := by
  induction performed with
  | nil => rfl
  | @cons before middle after action trace happens _ ih =>
      rw [ih, events_cons, List.foldl_append]
      congr 1
      cases action with
      | reported event => exact hears event before middle happens
      | _ => exact happens.2

def keep (event : Event) : StateT (List Event) (StateM State) Unit := modify (· ++ [event])

theorem record_course (system : System (StateM State)) (publication : Publication)
    (before : State) :
    ∃ trace result after, (record system publication).run before = ((result, events trace), after) ∧
      Performed system keep publication ([], before) trace (events trace, after) ∧
      Protocol publication trace result := by
  obtain ⟨trace, result, ⟨heard, after⟩, leads, performed, protocol⟩ :=
    publish_traced system keep publication ([], before)
  have appended (event : Event) (before after : List Event × State)
      (leads : Leads (keep event) before () after) : after.1 = before.1 ++ [event] :=
    (congrArg (fun answer => answer.1.2) leads).symm
  have folded := performed.heard (fun told event => told ++ [event]) appended
  have told : heard = events trace := by
    simpa [List.foldl_append_eq_append, ← List.flatMap_def] using folded
  subst told
  exact ⟨trace, result, after, leads, performed, protocol⟩

end Publication

theorem AssetCopy.performAll_le (system : System (StateM State)) (copies : List AssetCopy)
    (before : State) : ((performAll system copies).run before).1 ≤ copies.length := by
  induction copies generalizing before with
  | nil => exact Nat.le_refl 0
  | cons copy copies ih =>
      have others := ih ((copy.perform system).run.run before).2
      rw [performAll, StateT.run_bind]
      generalize (copy.perform system).run.run before = answer at others ⊢
      obtain ⟨_ | _, middle⟩ := answer
      · exact Nat.le_succ_of_le others
      · exact Nat.succ_le_succ others

def Event.isWritten : Event → Bool
  | .written _ => true
  | _ => false

theorem Event.isWritten_iff {event : Event} :
    event.isWritten = true ↔ ∃ path, event = .written path := by
  cases event <;> simp [isWritten]

theorem foldl_isWritten (told : List Event) (written : Bool) :
    told.foldl (fun written event => written || event.isWritten) written =
      (written || told.any Event.isWritten) := by
  induction told generalizing written with
  | nil => exact (Bool.or_false written).symm
  | cons event told ih => rw [List.foldl_cons, ih, List.any_cons, Bool.or_assoc]

namespace CommandLine

open Publication

variable (system : System (StateM State)) (print : Message → StateM State Unit)
  (options : Options) (settings : Settings)

def announcement (print : Message → StateM State Unit) (options : Options) (settings : Settings) :
    StateM State Unit :=
  let publication := publication options settings
  if settings.progress && !options.quiet then
    printAll print (announce options.input ⟨publication.output, publication.pdf⟩)
  else pure ()

theorem observe_written (progress : Bool) (event : Event) (written : Bool) (before : State) :
    (((observe print progress event).run written).run before).1.2 =
      (written || event.isWritten) := by
  cases event with
  | written path => cases progress <;> exact (Bool.or_true written).symm
  | _ => cases progress <;> exact (Bool.or_false written).symm

def exit (print : Message → StateM State Unit) (written : Bool) :
    Except Failure Report → StateM State Nat
  | .ok _ => return 0
  | .error failure => do
      printAll print (failureMessages written failure)
      return 1

theorem convert_run {before finish : State} {result : Except Failure Report} {written : Bool}
    (leads : Leads (publish system.lift (observe print (settings.progress && !options.quiet))
      (publication options settings)).run
      (false, ((announcement print options settings).run before).2) result (written, finish)) :
    (convert system print options settings).run before =
      (exit print written result).run finish := by
  have ended := congrArg (fun answer => (exit print answer.1.2 answer.1.1).run answer.2) leads
  unfold convert
  unfold announcement at ended
  cases progress : settings.progress && !options.quiet <;> rw [progress] at ended
  · exact ended
  · exact ended

theorem convert_course (before : State) :
    ∃ trace result written start finish,
      (announcement print options settings).run before = ((), start) ∧
      Performed system (observe print (settings.progress && !options.quiet))
        (publication options settings) (false, start) trace (written, finish) ∧
      Protocol (publication options settings) trace result ∧
      (written = true ↔ ∃ path, .written path ∈ events trace) ∧
      (convert system print options settings).run before =
        (exit print written result).run finish := by
  obtain ⟨trace, result, ⟨written, finish⟩, leads, performed, protocol⟩ :=
    publish_traced system (observe print (settings.progress && !options.quiet))
      (publication options settings) (false, ((announcement print options settings).run before).2)
  refine ⟨trace, result, written, _, finish, rfl, performed, protocol, ?_,
    convert_run system print options settings leads⟩
  have noted (event : Event) (before after : Bool × State)
      (leads : Leads (observe print (settings.progress && !options.quiet) event) before () after) :
      after.1 = (before.1 || event.isWritten) := by
    rw [← observe_written print, leads]
  have folded := performed.heard (fun written event => written || event.isWritten) noted
  rw [foldl_isWritten, Bool.false_or] at folded
  change written = _ at folded
  rw [folded, List.any_eq_true]
  constructor
  · rintro ⟨event, told, isWritten⟩
    obtain ⟨path, rfl⟩ := Event.isWritten_iff.mp isWritten
    exact ⟨path, told⟩
  · rintro ⟨path, told⟩
    exact ⟨_, told, rfl⟩

end CommandLine

open Publication in
/-- Whatever the system answers, a publication keeps to the protocol. No more copies succeed than
are queued, and the command line can tell by what it keeps whether a failure is one of the PDF. -/
theorem publication_keepsProtocol (system : System (StateM State)) (publication : Publication)
    (before : State) :
    (∃ trace result after,
      (record system publication).run before = ((result, events trace), after) ∧
      Performed system keep publication ([], before) trace (events trace, after) ∧
      Protocol publication trace result ∧ Accounts publication trace result) ∧
    (∀ copies : List AssetCopy,
      ((AssetCopy.performAll system copies).run before).1 ≤ copies.length) ∧
    ∀ (print : CommandLine.Message → StateM State Unit) (options : CommandLine.Options)
      (settings : Settings), ∃ trace result written start finish,
        (CommandLine.announcement print options settings).run before = ((), start) ∧
        Performed system (CommandLine.observe print (settings.progress && !options.quiet))
          (CommandLine.publication options settings) (false, start) trace (written, finish) ∧
        Protocol (CommandLine.publication options settings) trace result ∧
        Accounts (CommandLine.publication options settings) trace result ∧
        (written = true ↔ ∃ path, .written path ∈ events trace) ∧
        (CommandLine.convert system print options settings).run before =
          (CommandLine.exit print written result).run finish := by
  refine ⟨?_, fun copies => AssetCopy.performAll_le system copies before, ?_⟩
  · obtain ⟨trace, result, after, recorded, performed, protocol⟩ :=
      record_course system publication before
    exact ⟨trace, result, after, recorded, performed, protocol, protocol.accounts⟩
  · intro print options settings
    obtain ⟨trace, result, written, start, finish, announced, performed, protocol, noted,
      converted⟩ := CommandLine.convert_course system print options settings before
    exact ⟨trace, result, written, start, finish, announced, performed, protocol,
      protocol.accounts, noted, converted⟩

end Compositor
