import LeaseElection.Proofs.Course.Basic

namespace LeaseElection

/-- Whether a call would write a record that this participant holds: a claim, or a renewal. -/
def StoreCall.Claims (identity : String) : StoreCall τ → Prop
  | .get => False
  | .create record | .update record _ => record.holder = identity

instance (identity : String) (call : StoreCall τ) : Decidable (call.Claims identity) := by
  cases call <;> unfold StoreCall.Claims <;> infer_instance

/-- Whether a line of the log says that leadership is lost. -/
def LogLine.IsLoss (line : LogLine) : Prop :=
  line = .warn "failed to renew lease before the renew deadline" ∨
    line = .warn "lease is no longer held by this participant"

instance (line : LogLine) : Decidable line.IsLoss := inferInstanceAs (Decidable (_ ∨ _))

def ElectionPhase.Leads (phase : ElectionPhase) : Prop := phase = .leading ∨ phase = .renewing

instance (phase : ElectionPhase) : Decidable phase.Leads := inferInstanceAs (Decidable (_ ∨ _))

namespace Event

def phase? : Event τ → Option ElectionPhase
  | .did (.publish status) => some status.phase
  | .restarted => some .idle
  | _ => none

def signal? : Event τ → Option (Moment × Signal τ)
  | .told m signal => some (m, signal)
  | _ => none

def starts : Event τ → Bool
  | .did (.hook (.started _)) => true
  | _ => false

def stops : Event τ → Bool
  | .did (.hook .stopped) => true
  | _ => false

def cancelsWork : Event τ → Bool
  | .did .cancelWork => true
  | _ => false

def endsWork : Event τ → Bool
  | .told _ (.workEnded _) => true
  | _ => false

/-- Whether the caller cancels, or is seen to have cancelled. -/
def cancels : Event τ → Bool
  | .cancelled => true
  | .told m _ => m.cancelled
  | _ => false

def loses : Event τ → Bool
  | .did (.log line) => decide line.IsLoss
  | _ => false

def calls : Event τ → Bool
  | .did (.call _) => true
  | _ => false

end Event

namespace Trace

def phase (past : Trace τ) : ElectionPhase := (past.findSome? Event.phase?).getD .idle

def told (past : Trace τ) : Option (Moment × Signal τ) := past.findSome? Event.signal?

def clock (past : Trace τ) : Nat := ((told past).map fun t => t.1.now).getD 0

/-- The store call under way, and the local time at which it was begun. -/
def awaited : Trace τ → Option (StoreCall τ × Nat)
  | [] => none
  | .did (.call call) :: past => some (call, clock past)
  | .did .abandon :: _ | .told _ (.answered _) :: _ => none
  | _ :: past => awaited past

/-- The local time at which the last acknowledged claim or renewal was begun, if a claim was
acknowledged. -/
def secured (identity : String) : Trace τ → Option Nat
  | [] => none
  | .told _ (.answered (.written _)) :: past =>
      match awaited past with
      | some (call, begun) => if call.Claims identity then some begun else secured identity past
      | none => secured identity past
  | _ :: past => secured identity past

theorem secured_told_of_unwritten {identity : String} {past : Trace τ} {m : Moment}
    {signal : Signal τ} (unwritten : ∀ token, signal ≠ .answered (.written token)) :
    secured identity (.told m signal :: past) = secured identity past := by
  cases signal with
  | answered answer =>
      cases answer with
      | written token => exact absurd rfl (unwritten token)
      | found current | failed error => rfl
  | start | cancelled | timer | workEnded panicked => rfl

/-- Whatever is told, a claim that was acknowledged remains so. -/
theorem secured_told {identity : String} {past : Trace τ} (m : Moment) (signal : Signal τ)
    (before : secured identity past ≠ none) : secured identity (.told m signal :: past) ≠ none := by
  cases signal with
  | answered answer =>
      cases answer with
      | written token =>
          rw [secured]
          split
          · split
            · simp
            · exact before
          · exact before
      | found current | failed error => exact before
  | start | cancelled | timer | workEnded panicked => exact before

def Saw (kind : Event τ → Bool) (past : Trace τ) : Prop := ∃ event ∈ past, kind event = true

def Leads (past : Trace τ) : Prop := (phase past).Leads

/-- Whether leading has started and has not stopped since. -/
def InOffice : Trace τ → Prop
  | [] => False
  | .did (.hook (.started _)) :: _ => True
  | .did (.hook .stopped) :: _ | .restarted :: _ => False
  | _ :: past => InOffice past

theorem inOffice_cons (event : Event τ) (past : Trace τ) : InOffice (event :: past) ↔
    event.starts = true ∨ (event.stops = false ∧ event ≠ .restarted ∧ InOffice past) := by
  cases event with
  | did effect =>
      cases effect with
      | hook call => cases call <;> simp [InOffice, Event.starts, Event.stops]
      | _ => simp [InOffice, Event.starts, Event.stops]
  | _ => simp [InOffice, Event.starts, Event.stops]

end Trace

/-- All that is asked about a run. -/
structure Account (τ : Type) where
  phase : ElectionPhase
  told : Option (Moment × Signal τ)
  awaited : Option (StoreCall τ × Nat)
  secured : Option Nat
  started : Bool
  stopped : Bool
  workCancelled : Bool
  workEnded : Bool
  cancelled : Bool
  lost : Bool
  /-- Whether a call was begun after the caller had cancelled. -/
  departed : Bool
  /-- How leadership ended, if it did: whether it was found lost. -/
  left : Option Bool
  deriving DecidableEq, Repr

namespace Account

def blank : Account τ :=
  ⟨.idle, none, none, none, false, false, false, false, false, false, false, none⟩

def clock (d : Account τ) : Nat := (d.told.map fun t => t.1.now).getD 0

/-- The call under way after an event. -/
def awaitedAfter (d : Account τ) : Event τ → Option (StoreCall τ × Nat)
  | .did (.call call) => some (call, d.clock)
  | .did .abandon | .told _ (.answered _) => none
  | _ => d.awaited

/-- When the last acknowledged claim was begun, after an event. -/
def securedAfter (identity : String) (d : Account τ) : Event τ → Option Nat
  | .told _ (.answered (.written _)) =>
      match d.awaited with
      | some (call, begun) => if call.Claims identity then some begun else d.secured
      | none => d.secured
  | _ => d.secured

/-- How leadership ended, after an event. -/
def leftAfter (d : Account τ) (event : Event τ) : Option Bool :=
  match event.phase? with
  | some phase => if d.phase.Leads ∧ ¬ phase.Leads then some d.lost else d.left
  | none => d.left

def note (identity : String) (d : Account τ) (event : Event τ) : Account τ where
  phase := event.phase?.getD d.phase
  told := event.signal?.or d.told
  awaited := d.awaitedAfter event
  secured := d.securedAfter identity event
  started := d.started || event.starts
  stopped := d.stopped || event.stops
  workCancelled := d.workCancelled || event.cancelsWork
  workEnded := d.workEnded || event.endsWork
  cancelled := d.cancelled || event.cancels
  lost := d.lost || event.loses
  departed := d.departed || (d.cancelled && event.calls)
  left := d.leftAfter event

end Account

def account (identity : String) : Trace τ → Account τ
  | [] => .blank
  | event :: past => (account identity past).note identity event

section Reading

variable (identity : String)

@[simp] theorem account_nil : account identity ([] : Trace τ) = .blank := rfl

@[simp] theorem account_cons (event : Event τ) (past : Trace τ) :
    account identity (event :: past) = (account identity past).note identity event := rfl

theorem account_phase (past : Trace τ) : (account identity past).phase = Trace.phase past := by
  induction past with
  | nil => rfl
  | cons event past ih =>
      simp only [account_cons, Account.note, Trace.phase, ih, List.findSome?_cons]
      cases event.phase? <;> rfl

theorem account_told (past : Trace τ) : (account identity past).told = Trace.told past := by
  induction past with
  | nil => rfl
  | cons event past ih =>
      simp only [account_cons, Account.note, Trace.told, ih, List.findSome?_cons]
      cases event.signal? <;> rfl

theorem account_clock (past : Trace τ) : (account identity past).clock = Trace.clock past := by
  rw [Account.clock, Trace.clock, account_told]

theorem account_awaited (past : Trace τ) :
    (account identity past).awaited = Trace.awaited past := by
  induction past with
  | nil => rfl
  | cons event past ih =>
      change Account.awaitedAfter _ event = _
      unfold Account.awaitedAfter
      split <;> simp_all [Trace.awaited, account_clock]

theorem account_secured (past : Trace τ) :
    (account identity past).secured = Trace.secured identity past := by
  induction past with
  | nil => rfl
  | cons event past ih =>
      change Account.securedAfter identity _ event = _
      unfold Account.securedAfter
      split <;> simp_all [Trace.secured, account_awaited]

/-- A field that records whether a kind of event has been seen tells just that. -/
theorem account_saw (field : Account τ → Bool) (kind : Event τ → Bool)
    (blank : field .blank = false)
    (note : ∀ d event, field (d.note identity event) = (field d || kind event))
    (past : Trace τ) : field (account identity past) = true ↔ Trace.Saw kind past := by
  induction past with
  | nil => simp [blank, Trace.Saw]
  | cons event past ih =>
      simp only [account_cons, note, Bool.or_eq_true, ih, Trace.Saw, List.mem_cons,
        exists_eq_or_imp]
      exact or_comm

theorem account_started (past : Trace τ) :
    (account identity past).started = true ↔ Trace.Saw Event.starts past :=
  account_saw identity Account.started _ rfl (fun _ _ => rfl) past

theorem account_stopped (past : Trace τ) :
    (account identity past).stopped = true ↔ Trace.Saw Event.stops past :=
  account_saw identity Account.stopped _ rfl (fun _ _ => rfl) past

theorem account_workCancelled (past : Trace τ) :
    (account identity past).workCancelled = true ↔ Trace.Saw Event.cancelsWork past :=
  account_saw identity Account.workCancelled _ rfl (fun _ _ => rfl) past

theorem account_workEnded (past : Trace τ) :
    (account identity past).workEnded = true ↔ Trace.Saw Event.endsWork past :=
  account_saw identity Account.workEnded _ rfl (fun _ _ => rfl) past

theorem account_cancelled (past : Trace τ) :
    (account identity past).cancelled = true ↔ Trace.Saw Event.cancels past :=
  account_saw identity Account.cancelled _ rfl (fun _ _ => rfl) past

theorem account_lost (past : Trace τ) :
    (account identity past).lost = true ↔ Trace.Saw Event.loses past :=
  account_saw identity Account.lost _ rfl (fun _ _ => rfl) past

end Reading

end LeaseElection
