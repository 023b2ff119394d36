import Throughput.Proofs.Fanout
import Throughput.Proofs.Output

/-!
Contract: an output that refuses every text does not disturb reporting.

Owns:
- `Deposit`, what reporters leave behind, with a host whose output accepts
  every text and a host whose output refuses every text;
- `Trace.entries`, the log that a trace makes, and `Trace.warned`, the same log
  with a warning where a text was written;
- `Alongside`, what is kept while the same notices are delivered on both hosts;
- the theorem that they differ in the output and in these warnings alone.

A refusal may come with any reason, and each with another.
-/

namespace Throughput

/-! ### The log of a trace -/

namespace Trace

def Event.entry : Event → Option Log.Entry
  | .recorded entry => some entry
  | _ => none

/-- The entries that are made in the log, in order. -/
def entries (trace : Trace) : List Log.Entry :=
  trace.filterMap Event.entry

/-- The entries of a trace with a warning at the place of each text that is
given to the output. The reasons are taken in turn, from the one with the number
`first`. -/
def warned (reasons : Nat → String) (first : Nat) : Trace → List Log.Entry
  | [] => []
  | .wrote _ _ :: rest => .writeFailed (reasons first) :: warned reasons (first + 1) rest
  | .recorded entry :: rest => entry :: warned reasons first rest
  | _ :: rest => warned reasons first rest

theorem entries_append (first second : Trace) :
    (first ++ second).entries = first.entries ++ second.entries :=
  List.filterMap_append ..

theorem warned_append (reasons : Nat → String) (first : Nat) (early late : Trace) :
    (early ++ late).warned reasons first =
      early.warned reasons first ++ late.warned reasons (first + early.texts.length) := by
  induction early generalizing first with
  | nil => rfl
  | cons event rest inductionHypothesis =>
      cases event with
      | wrote text refusal =>
          -- A text uses up the reason with the number `first`.
          have counted : first + (texts (.wrote text refusal :: rest)).length =
              first + 1 + (texts rest).length := by
            change first + ((texts rest).length + 1) = _
            omega
          rw [counted, List.cons_append, warned, warned, inductionHypothesis]
          rfl
      | recorded entry =>
          rw [List.cons_append, warned, warned, inductionHypothesis]
          rfl
      | _ => exact inductionHypothesis first

end Trace

/-- What reporters leave behind. -/
structure Deposit where
  output : String := ""
  log : List Log.Entry := []
  /-- The notices that were captured, each under its label. -/
  captured : List (String × Notice) := []
  /-- How many texts the output has refused. -/
  refusals : Nat := 0

namespace Deposit

/-- The host that keeps what reporters ask for and has the given output. Its
clock stands still. -/
def host (write : String → StateM Deposit (Option String)) : Host (StateM Deposit) where
  start := pure ()
  elapsed := pure 0
  write := write
  record := fun entry => modify fun deposit => { deposit with log := deposit.log ++ [entry] }
  capture := fun label notice => modify fun deposit =>
    { deposit with captured := deposit.captured ++ [(label, notice)] }
  dayMillis := pure 0
  nanos := pure 0

/-- The host whose output accepts every text. -/
def accepting : Host (StateM Deposit) :=
  host fun text => modifyGet fun deposit =>
    (none, { deposit with output := deposit.output ++ text })

/-- The host whose output refuses every text, each for the next of the reasons. -/
def refusing (reasons : Nat → String) : Host (StateM Deposit) :=
  host fun _ => modifyGet fun deposit =>
    (some (reasons deposit.refusals), { deposit with refusals := deposit.refusals + 1 })

/-- Two deliveries that began with the same deposit, one on the accepting host
with all that it has shown and one on the refusing host. -/
structure Alongside (reasons : Nat → String) (before : Deposit) (printed : Watched Deposit)
    (refused : Deposit) : Prop where
  output_eq : printed.world.output = before.output ++ String.join printed.trace.texts
  log_eq : printed.world.log = before.log ++ printed.trace.entries
  captured_eq : refused.captured = printed.world.captured
  output_kept : refused.output = before.output
  log_warned : refused.log = before.log ++ printed.trace.warned reasons before.refusals
  refusals_eq : refused.refusals = before.refusals + printed.trace.texts.length

variable {reasons : Nat → String} {before refused : Deposit} {printed : Watched Deposit}

theorem alongside_refl (reasons : Nat → String) (before : Deposit) :
    Alongside reasons before ⟨before, []⟩ before where
  output_eq := String.append_empty.symm
  log_eq := (List.append_nil _).symm
  captured_eq := rfl
  output_kept := rfl
  log_warned := (List.append_nil _).symm
  refusals_eq := rfl

/-- One event more: how it shows on the accepting host says what both deposits are
to hold after it. -/
theorem Alongside.next {printed' refused' : Deposit} (event : Trace.Event)
    (alongside : Alongside reasons before printed refused)
    (output_eq : printed'.output =
      printed.world.output ++ String.join (Trace.texts [event]))
    (log_eq : printed'.log = printed.world.log ++ Trace.entries [event])
    (captured_eq : refused'.captured = printed'.captured)
    (output_kept : refused'.output = refused.output)
    (log_warned : refused'.log = refused.log ++ Trace.warned reasons refused.refusals [event])
    (refusals_eq : refused'.refusals = refused.refusals + (Trace.texts [event]).length) :
    Alongside reasons before ⟨printed', printed.trace ++ [event]⟩ refused' where
  output_eq := by
    rw [output_eq, alongside.output_eq, Trace.texts_append, String.join_append,
      String.append_assoc]
  log_eq := by rw [log_eq, alongside.log_eq, Trace.entries_append, List.append_assoc]
  captured_eq := captured_eq
  output_kept := output_kept.trans alongside.output_kept
  log_warned := by
    rw [log_warned, alongside.log_warned, alongside.refusals_eq, Trace.warned_append,
      List.append_assoc]
  refusals_eq := by
    rw [refusals_eq, alongside.refusals_eq, Trace.texts_append, List.length_append,
      Nat.add_assoc]

/-- One effect, carried out on either host. A line shows as one event where it is
accepted; where it is refused, it makes an entry. -/
theorem perform_alongside (effect : Effect) (alongside : Alongside reasons before printed refused) :
    Alongside reasons before ((accepting.watched.perform effect).run printed).2
      (((refusing reasons).perform effect).run refused).2 := by
  have captured := alongside.captured_eq
  cases effect with
  | print line =>
      have written : printed.world.output ++ (line ++ "\n") =
          printed.world.output ++ String.join [line ++ "\n"] := by simp
      exact alongside.next (.wrote (line ++ "\n") none) written (List.append_nil _).symm captured
        rfl rfl rfl
  | record entry =>
      exact alongside.next (.recorded entry) String.append_empty.symm rfl captured rfl rfl rfl
  | capture label notice =>
      have kept : refused.captured ++ [(label, notice)] =
          printed.world.captured ++ [(label, notice)] := by rw [captured]
      exact alongside.next (.captured label notice) String.append_empty.symm
        (List.append_nil _).symm kept rfl (List.append_nil _).symm rfl

theorem performAll_alongside (effects : List Effect)
    (alongside : Alongside reasons before printed refused) :
    Alongside reasons before ((accepting.watched.performAll effects).run printed).2
      (((refusing reasons).performAll effects).run refused).2 := by
  induction effects generalizing printed refused with
  | nil => exact alongside
  | cons first rest inductionHypothesis =>
      exact inductionHypothesis (perform_alongside first alongside)

theorem deliver_alongside (reporters : List (Reporter Outlet)) (notices : List Notice)
    (alongside : Alongside reasons before printed refused) :
    Alongside reasons before ((accepting.watched.deliver reporters notices).run printed).2
      (((refusing reasons).deliver reporters notices).run refused).2 := by
  induction notices generalizing printed refused with
  | nil => exact alongside
  | cons notice later inductionHypothesis =>
      exact inductionHypothesis (performAll_alongside _ alongside)

/-- A refused text never disturbs reporting. Deliver any notices to any reporters
twice from the same deposit, once on an output that accepts every text and once on
one that refuses every text, for whatever reasons. The same notices are captured
under the same labels; the output that refuses stays as it was; and its log is the
log of the other with one warning more wherever that one has printed a line. -/
theorem refused_texts_do_not_disturb
    (reporters : List (Reporter Outlet))
    (notices : List Notice)
    (reasons : Nat → String)
    (before : Deposit) :
    let printed := ((accepting.deliver reporters notices).run before).2
    let refused := (((refusing reasons).deliver reporters notices).run before).2
    (∃ trace : Trace,
      (accepting.watched.deliver reporters notices).run ⟨before, []⟩ = ((), ⟨printed, trace⟩) ∧
      printed.output = before.output ++ String.join trace.texts ∧
      printed.log = before.log ++ trace.entries ∧
      refused.log = before.log ++ trace.warned reasons before.refusals) ∧
    refused.captured = printed.captured ∧
    refused.output = before.output ∧
    ∀ reason,
      (Log.Entry.writeFailed reason).level = .warn ∧
      (Log.Entry.writeFailed reason).message = "failed to write report line" := by
  intro printed refused
  obtain ⟨trace, watchedRun, _⟩ :=
    @leaves_deliver _ accepting [] reporters notices ⟨before, []⟩
  have alongside : Alongside reasons before ⟨printed, trace⟩ refused := by
    have delivered := deliver_alongside reporters notices (alongside_refl reasons before)
    rw [watchedRun] at delivered
    exact delivered
  exact ⟨⟨trace, watchedRun, alongside.output_eq, alongside.log_eq, alongside.log_warned⟩,
    alongside.captured_eq, alongside.output_kept, fun _ => ⟨rfl, rfl⟩⟩

end Deposit

end Throughput
