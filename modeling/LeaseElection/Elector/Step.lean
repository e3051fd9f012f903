import LeaseElection.Elector.Turn

/-!
# Reactions of an elector

The rule by which a participant claims the lock record, keeps it, and gives it up. While it has no
lease it reads the record once every retry period, and claims it where it is missing, vacant, lapsed
or its own. A lapse shows in the record's own times, or in that one version of the record was the
last one read for longer than its lease. A leader renews its claim once every retry period and stops
leading when the renew deadline has passed since it began its last acknowledged write; only a
cancelled leader gives the record up.

No call is begun once the run is cancelled, except for the one that gives the record up.
-/
namespace LeaseElection

namespace Elector

variable {τ : Type} (c : ElectionConfig) (m : Moment)

def finish (t : Turn τ) (outcome : ElectionOutcome) : Turn τ :=
  ((t.enter .idle).become .idle).emit (.returned outcome)

def release (t : Turn τ) (held : Held τ) : Turn τ :=
  (t.become (.releasing (m.now + c.renewDeadline.nanoseconds))).emit
    (.call (.update (held.record.released m.wall) held.token))

/-- Ends a run that has the lease because the caller wants it to end: with the record given up
first, if that is asked for. -/
def depart (t : Turn τ) (held : Held τ) : Turn τ :=
  if c.releaseOnCancel then release c m t held else finish t .cancelled

def stepDown (t : Turn τ) (held : Held τ) (reason : StopReason) (panicked : Bool) : Turn τ :=
  let t := { t with elector := { t.elector with work := .absent } }
  let t := if panicked then t.emit (.log (.error "leader workload panicked")) else t
  let t := (t.emit (.gauge false)).emit (.hook .stopped)
  match reason with
  | .cancelled => depart c m t held
  | .lost successor =>
    let t := t.emit (.count .abdications)
    let t := t.emit (.log (.warn "stopped leading: leadership lost"))
    let t := t.follow successor
    let t := match successor with
      | some leader => t.report leader
      | none => t
    finish t .leadershipLost

/-- Stops leading: cancels the workload and waits until it is over. -/
def stop (t : Turn τ) (held : Held τ) (reason : StopReason) : Turn τ :=
  let t := (t.enter .releasing).emit .cancelWork
  match t.elector.work with
  | .ended panicked => stepDown c m t held reason panicked
  | .running | .absent => t.become (.stopping held reason)

/-- Waits for the next renewal, unless the renew deadline has come. -/
def hold (t : Turn τ) (held : Held τ) : Turn τ :=
  if m.cancelled then stop c m t held .cancelled
  else if renewBy c held ≤ m.now then
    stop c m (t.emit (.log (.warn "failed to renew lease before the renew deadline"))) held
      (.lost none)
  else t.become (.holding held (min (m.now + c.retryPeriod.nanoseconds) (renewBy c held)))

def renew (t : Turn τ) (held : Held τ) : Turn τ :=
  let record := held.record.renewed c.lease m.wall
  ((t.enter .renewing).become (.renewing held record m.now)).emit (.call (.update record held.token))

def reread (t : Turn τ) (held : Held τ) : Turn τ :=
  if m.cancelled then stop c m t held .cancelled
  else (t.become (.rereading held)).emit (.call .get)

/-- Goes on after a failed renewal: with a stale token, the record is read again. -/
def renewalFailed (t : Turn τ) (held : Held τ) (stale : Bool) : Turn τ :=
  let t := t.emit (.count .renewFailures)
  if stale then reread c m t held else hold c m t held

def reconsider (t : Turn τ) (held : Held τ) (current : Versioned τ) : Turn τ :=
  if current.record.IsHeldBy t.identity then
    hold c m t ⟨current.record, current.token, held.stamped⟩
  else
    let t := t.emit (.log (.warn "lease is no longer held by this participant"))
    stop c m t held
      (.lost (if current.record.IsVacant then none else some current.record.holder))

def lead (t : Turn τ) (held : Held τ) : Turn τ :=
  let t := (t.enter .leading).emit (.hook (.started false))
  hold c m { t with elector := { t.elector with work := .running } } held

def attempt (t : Turn τ) : Turn τ :=
  if m.cancelled then finish t .cancelled
  else (t.become (.reading (m.now + c.renewDeadline.nanoseconds))).emit (.call .get)

def rest (t : Turn τ) : Turn τ :=
  if m.cancelled then finish t .cancelled
  else t.become (.waiting (m.now + c.retryPeriod.nanoseconds))

def claim (t : Turn τ) (deadline : Nat) (record : LeaseRecord) (call : StoreCall τ) : Turn τ :=
  if m.cancelled then finish t .cancelled
  else (t.become (.claiming deadline record m.now)).emit (.call call)

/-- The sighting of a version that was read, which dates from when it was first read. -/
def noted [DecidableEq τ] (last : Option (Sighting τ)) (current : Versioned τ) : Sighting τ :=
  match last with
  | some s => if s.token = current.token then s else ⟨current.token, m.now⟩
  | none => ⟨current.token, m.now⟩

/-- Takes note of the version that was read, and of who holds it. -/
def observe [DecidableEq τ] (t : Turn τ) (current : Versioned τ) : Turn τ :=
  let sighting := noted m t.elector.sighting current
  let t := { t with elector := { t.elector with sighting := some sighting } }
  if current.record.IsVacant then t.follow none
  else if current.record.holder = t.identity then t
  else (t.follow (some current.record.holder)).report current.record.holder

/-- Whether the version seen last has gone unchanged for longer than its lease. -/
def IsStale (e : Elector τ) (record : LeaseRecord) : Prop :=
  match e.sighting with
  | some s => record.leaseSeconds.toNat * Duration.nanosPerSecond < m.now - s.since
  | none => False

instance (e : Elector τ) (record : LeaseRecord) : Decidable (IsStale m e record) := by
  unfold IsStale; split <;> infer_instance

def IsClaimable (e : Elector τ) (record : LeaseRecord) : Prop :=
  record.IsVacant ∨ record.IsHeldBy e.status.identity ∨ record.IsExpired m.wall ∨
    IsStale m e record

instance (e : Elector τ) (record : LeaseRecord) : Decidable (IsClaimable m e record) :=
  inferInstanceAs (Decidable (_ ∨ _ ∨ _ ∨ _))

def consider [DecidableEq τ] (t : Turn τ) (deadline : Nat) (current : Versioned τ) : Turn τ :=
  let t := observe m t current
  if IsClaimable m t.elector current.record then
    let record := current.record.takenOverBy t.identity c.lease m.wall
    claim m t deadline record (.update record current.token)
  else rest c m t

def found (t : Turn τ) (deadline : Nat) : Turn τ :=
  let record := LeaseRecord.claimed t.identity c.lease m.wall
  claim m t deadline record (.create record)

def acquired (t : Turn τ) (held : Held τ) : Turn τ :=
  let t := (t.emit (.count .acquisitions)).emit (.gauge true)
  let t := { t with elector := { t.elector with lastReported := some t.identity } }
  let t := t.follow (some t.identity)
  if m.cancelled then
    let t := t.emit (.gauge false)
    depart c m (if c.releaseOnCancel then t.enter .releasing else t) held
  else lead c m t held

def onStart (e : Elector τ) : Turn τ :=
  match e.stage with
  | .idle =>
    let e := { e with sighting := none, lastReported := none, work := .absent }
    attempt c m (Turn.mk e [] |>.enter .acquiring)
  | _ => ⟨e, []⟩

def onCancelled (e : Elector τ) : Turn τ :=
  let t : Turn τ := ⟨e, []⟩
  match e.stage with
  | .reading _ | .claiming .. => finish (t.emit .abandon) .cancelled
  | .waiting _ => finish t .cancelled
  | .holding held _ => stop c m t held .cancelled
  | .renewing held .. | .rereading held => stop c m (t.emit .abandon) held .cancelled
  | .idle | .stopping .. | .releasing _ => t

def onTimer (e : Elector τ) : Turn τ :=
  let t : Turn τ := ⟨e, []⟩
  match e.stage with
  | .reading _ | .claiming .. => rest c m (t.emit .abandon)
  | .waiting _ => attempt c m t
  | .holding held _ => if renewBy c held ≤ m.now then hold c m t held else renew c m t held
  | .renewing held .. => renewalFailed c m (t.emit .abandon) held false
  | .rereading held => hold c m (t.emit .abandon) held
  | .releasing _ =>
    let t := (t.emit .abandon).emit (.count .releaseFailures)
    finish (t.emit (.log (.warn "timed out releasing lease"))) .cancelled
  | .idle | .stopping .. => t

/-- Reacts to an answer of the store. An answer of the wrong kind is passed over. -/
def onAnswer [DecidableEq τ] (e : Elector τ) (answer : StoreAnswer τ) : Turn τ :=
  let t : Turn τ := ⟨e, []⟩
  match e.stage, answer with
  | .reading deadline, .found current => consider c m t deadline current
  | .reading deadline, .failed error =>
    if error.IsNotFound then found c m t deadline else rest c m t
  | .claiming _ record stamped, .written token => acquired c m t ⟨record, token, stamped⟩
  | .claiming .., .failed _ => rest c m t
  | .renewing _ record started, .written token =>
    hold c m (t.enter .leading) ⟨record, token, started⟩
  | .renewing held .., .failed error => renewalFailed c m t held (decide error.IsConflict)
  | .rereading held, .found current => reconsider c m t held current
  | .rereading held, .failed _ => hold c m t held
  | .releasing _, .written _ => finish (t.follow none) .cancelled
  | .releasing _, .failed _ =>
    let t := t.emit (.count .releaseFailures)
    finish (t.emit (.log (.warn "failed to release lease"))) .cancelled
  | _, _ => t

def onWorkEnded (e : Elector τ) (panicked : Bool) : Turn τ :=
  let e := { e with work := .ended panicked }
  match e.stage with
  | .stopping held reason => stepDown c m ⟨e, []⟩ held reason panicked
  | _ => ⟨e, []⟩

/-- Reacts to a signal. A timer that has not come due is passed over, and a cancellation that is
seen when the timer goes off goes first. -/
def step [DecidableEq τ] (e : Elector τ) : Signal τ → Turn τ
  | .start => onStart c m e
  | .cancelled => onCancelled c m e
  | .answered answer => onAnswer c m e answer
  | .timer =>
    match e.alarm? c with
    | some due =>
      if m.now < due then ⟨e, []⟩
      else if m.cancelled ∧ e.stage.HeedsCancel then onCancelled c m e
      else onTimer c m e
    | none => ⟨e, []⟩
  | .workEnded panicked =>
    if e.work = .running then onWorkEnded c m e panicked else ⟨e, []⟩

end Elector

end LeaseElection
