import LeaseElection.Proofs.Json.Reading

namespace LeaseElection.Json.Reader

open LeaseElection.Text (Glyph)

variable {α β : Type} {r : Reader α} {f : α → Reader β} {before : List Glyph} {a : α}

/-- Whatever the reader yields for what is to be read, if anything, and what it leaves of it obey
the condition. -/
def Ensures (r : Reader α) (before : List Glyph) (post : α → List Glyph → Prop) : Prop :=
  ∀ place a after, r ⟨before, place⟩ = (.ok a, after) → post a after.rest

abbrev Refuses (r : Reader α) (before : List Glyph) : Prop := Ensures r before fun _ _ => False

theorem bind_ok {b : β} {cursor after : Cursor} (done : (r >>= f) cursor = (.ok b, after)) :
    ∃ a middle, r cursor = (.ok a, middle) ∧ f a middle = (.ok b, after) := by
  have unfolded : (match r cursor with | (result, cursor) => ExceptT.bindCont f result cursor) =
      (.ok b, after) := done
  cases first : r cursor with
  | mk result middle =>
      rw [first] at unfolded
      cases result with
      | error fault => cases unfolded
      | ok a => exact ⟨a, middle, rfl, unfolded⟩

namespace Ensures

variable {post : α → List Glyph → Prop} {next : β → List Glyph → Prop}

theorem mono {weaker : α → List Glyph → Prop} (ensures : Ensures r before post)
    (implies : ∀ a left, post a left → weaker a left) : Ensures r before weaker :=
  fun place a after done => implies a after.rest (ensures place a after done)

/-- A reader that refuses a text ensures anything of it. -/
theorem of_refuses (refuses : Refuses r before) : Ensures r before post :=
  refuses.mono fun _ _ absurd => absurd.elim

theorem of_reads {text : List Char} {rest : List Glyph} (reads : Reads r text rest a) :
    Ensures r (text.map .char ++ rest) fun b left => b = a ∧ left = rest := by
  intro place b after done
  obtain ⟨behind, read⟩ := reads place
  rw [read] at done
  cases done
  exact ⟨rfl, rfl⟩

theorem holds {text : List Char} {rest : List Glyph}
    (ensures : Ensures r (text.map .char ++ rest) post) (reads : Reads r text rest a) :
    post a rest := by
  obtain ⟨behind, read⟩ := reads ⟨1, 0⟩
  exact ensures _ _ _ read

theorem pure (holds : post a before) : Ensures (Pure.pure a) before post := by
  intro place b after done
  cases done
  exact holds

theorem fail (cause : Cause) : Refuses (Reader.fail cause : Reader α) before := by
  intro place b after done
  cases done

theorem failAhead (cause : Cause) : Refuses (Reader.failAhead cause : Reader α) before := by
  intro place b after done
  cases done

theorem failData (cause : Cause) : Refuses (Reader.failData cause : Reader α) before := by
  intro place b after done
  cases done

theorem bind (first : Ensures r before post)
    (second : ∀ a left, post a left → Ensures (f a) left next) : Ensures (r >>= f) before next := by
  intro place b after done
  obtain ⟨a, middle, read, continued⟩ := bind_ok done
  exact second a middle.rest (first place a middle read) middle.place b after continued

/-- The same if nothing is known of what comes first. -/
theorem bindAny (second : ∀ a left, Ensures (f a) left next) : Ensures (r >>= f) before next := by
  have anything : Ensures r before fun _ _ => True := fun _ _ _ _ => trivial
  exact anything.bind fun a left _ => second a left

theorem bindRefuses (first : Refuses r before) : Ensures (r >>= f) before next :=
  bind first fun _ _ absurd => absurd.elim

theorem bindReads {text : List Char} {rest : List Glyph} (first : Reads r text rest a)
    (second : Ensures (f a) rest next) : Ensures (r >>= f) (text.map .char ++ rest) next := by
  refine bind (of_reads first) ?_
  rintro b left ⟨rfl, rfl⟩
  exact second

theorem bindReadsChar {c : Char} {rest : List Glyph} (first : Reads r [c] rest a)
    (second : Ensures (f a) rest next) : Ensures (r >>= f) (.char c :: rest) next :=
  bindReads first second

theorem peek {f : Option Glyph → Reader β} (second : Ensures (f before.head?) before next) :
    Ensures (Reader.peek >>= f) before next := by
  intro place b after done
  rw [bind_of_ok (peek_eq _)] at done
  exact second place b after done

theorem advance {g : Glyph} {f : Unit → Reader β} (second : Ensures (f ()) before next) :
    Ensures (Reader.advance >>= f) (g :: before) next := by
  intro place b after done
  rw [bind_of_ok (advance_eq _)] at done
  exact second (place.after g) b after done

theorem get {f : Cursor → Reader β} (second : ∀ place, Ensures (f ⟨before, place⟩) before next) :
    Ensures (MonadState.get >>= f) before next := by
  intro place b after done
  have got (cursor : Cursor) : (MonadState.get : Reader Cursor) cursor = (.ok cursor, cursor) := rfl
  rw [bind_of_ok (got _)] at done
  exact second place place b after done

theorem settle (ensures : Ensures r before post) : Ensures (Reader.settle r) before post := by
  intro place a after done
  refine ensures place a after ?_
  unfold Reader.settle at done
  split at done
  · cases done
  · exact done

theorem closedBy {close : Reader Unit} (refuses : Refuses r before) :
    Refuses (Reader.closedBy r close) before := by
  intro place a after done
  unfold Reader.closedBy at done
  split at done
  next read => exact refuses place _ _ read
  · cases done

end Ensures

theorem decode_of_refuses {text : List Glyph} (refuses : Refuses r text) :
    ∃ fault, decode r text = .error fault := by
  cases result : decode r text with
  | error fault => exact ⟨fault, rfl⟩
  | ok a =>
      have none : Refuses (whole r) text := .bindRefuses refuses
      have done : (whole r ⟨text, ⟨1, 0⟩⟩).1 = .ok a := result
      exact (none ⟨1, 0⟩ a _ (Prod.ext done rfl)).elim

end LeaseElection.Json.Reader
