import GreetingCheck.Stream.Writer

/-!
# What a writer stores

`Writer.writeAll` stores a beginning of the bytes it is given, and it succeeds exactly when that is
all of them (`wrote_writeAll`). Short and interrupted calls do not show. It stops before the end
only where nothing can be stored any more: the writer has no room left, or takes nothing at all.
-/

namespace GreetingCheck

/-- A writer that never fails: it may be slow and be interrupted, but it takes everything in
the end. -/
structure Faults.Reliable (faults : Faults) : Prop where
  room : faults.room = Option.none
  chunk : faults.chunk ≠ some 0
  flushFault : faults.flushFault = Option.none

theorem Faults.reliable_none : Faults.none.Reliable := ⟨rfl, by simp [Faults.none], rfl⟩

namespace Writer

variable {faults : Faults} {w w' : Writer}

/-- A writer that has no room left. -/
def Spent (faults : Faults) (w : Writer) : Prop :=
  ∃ room, faults.room = some room ∧ room.bytes ≤ w.stored.length

theorem Spent.of_stored_eq (h : w.Spent faults) (hstored : w'.stored = w.stored) :
    w'.Spent faults := by
  obtain ⟨room, hroom, hfull⟩ := h
  exact ⟨room, hroom, by rw [hstored]; exact hfull⟩

/-! ## Single calls -/

theorem full?_eq_none_iff : w.full? faults = none ↔ ¬ w.Spent faults := by
  unfold full? Spent
  cases faults.room with
  | none => simp
  | some room => simp

/-- The answers of a full writer. -/
theorem reply_of_full {reply : Reply} (h : w.full? faults = some reply) :
    reply = .accepted 0 ∨ ∃ error, reply = .failed error := by
  rw [full?, Option.bind_eq_some_iff] at h
  obtain ⟨room, _, h⟩ := h
  split at h
  · cases h
    cases room.whenFull with
    | refuse => exact .inl rfl
    | fail error => exact .inr ⟨error, rfl⟩
  · cases h

theorem share_of_spent (h : w.Spent faults) (offered : Nat) : w.share faults offered = 0 := by
  obtain ⟨room, hroom, hfull⟩ := h
  simp only [share, hroom, Option.map_some, Option.getD_some]
  omega

theorem share_le (faults : Faults) (w : Writer) (offered : Nat) :
    w.share faults offered ≤ offered := by
  unfold share
  cases faults.chunk <;> cases faults.room <;>
    simp only [Option.map_none, Option.map_some, Option.getD_none, Option.getD_some] <;> omega

/-- A writer with room takes something of what it is offered, unless it never does. -/
theorem share_pos (h : ¬ w.Spent faults) (hchunk : faults.chunk ≠ some 0) {offered : Nat}
    (hoffered : 0 < offered) : 0 < w.share faults offered := by
  have hroom : ∀ room, faults.room = some room → w.stored.length < room.bytes := by
    intro room hroom
    exact Nat.not_le.1 fun hfull => h ⟨room, hroom, hfull⟩
  -- what is left of the offer by the limit of one call is then cut down to the room
  have htaken : 0 < (faults.chunk.map (min offered)).getD offered := by
    cases hc : faults.chunk with
    | none => exact hoffered
    | some n =>
      have hn : n ≠ 0 := fun hzero => hchunk (hc.trans (congrArg some hzero))
      simp only [Option.map_some, Option.getD_some]
      omega
  unfold share
  cases hr : faults.room with
  | none => exact htaken
  | some room =>
    have := hroom room hr
    simp only [Option.map_some, Option.getD_some]
    omega

theorem share_of_no_chunk (hchunk : faults.chunk = some 0) (offered : Nat) :
    w.share faults offered = 0 := by
  unfold share
  cases faults.room <;> simp [hchunk]

/-- What a single call comes to. -/
inductive Called (faults : Faults) (bytes : List UInt8) (w : Writer) : Reply → Writer → Prop
  | interrupted {w' : Writer} (hstored : w'.stored = w.stored) (hflushes : w'.flushes = w.flushes) :
      Called faults bytes w .interrupted w'
  /-- Some of the bytes were stored. -/
  | accepted {w' : Writer} {count : Nat} (hroom : ¬ w.Spent faults) (hchunk : faults.chunk ≠ some 0)
      (hcount : count < bytes.length) (hstored : w'.stored = w.stored ++ bytes.take (count + 1))
      (hflushes : w'.flushes = w.flushes) : Called faults bytes w (.accepted (count + 1)) w'
  /-- Nothing was stored, and nothing will be. -/
  | refused {reply : Reply} {w' : Writer} (hreply : reply = .accepted 0 ∨ ∃ e, reply = .failed e)
      (hstop : w.Spent faults ∨ faults.chunk = some 0) (hstored : w'.stored = w.stored)
      (hflushes : w'.flushes = w.flushes) : Called faults bytes w reply w'

theorem called_write {bytes : List UInt8} (hbytes : bytes ≠ []) (w : Writer) :
    Called faults bytes w (w.write faults bytes).1 (w.write faults bytes).2 := by
  unfold write
  split
  · exact .interrupted rfl rfl
  · by_cases hspent : w.Spent faults
    · cases hfull : w.full? faults with
      | none => exact absurd hspent (full?_eq_none_iff.1 hfull)
      | some reply =>
        exact .refused (reply_of_full hfull) (.inl hspent) (by simp [share_of_spent hspent]) rfl
    · rw [full?_eq_none_iff.2 hspent]
      by_cases hchunk : faults.chunk = some 0
      · have hzero := share_of_no_chunk (w := w) hchunk bytes.length
        exact .refused (.inl (by simp [hzero])) (.inr hchunk) (by simp [hzero]) rfl
      · have hpos := share_pos hspent hchunk (List.length_pos_iff.2 hbytes)
        have hle := share_le faults w bytes.length
        obtain ⟨count, hcount⟩ := Nat.exists_eq_succ_of_ne_zero (Nat.ne_of_gt hpos)
        rw [hcount] at hle ⊢
        exact .accepted hspent hchunk hle rfl rfl

/-! ## Whole writes -/

/-- What a whole write comes to: the bytes `taken` have been stored and the bytes `left` have not. -/
structure Wrote (faults : Faults) (w : Writer) (taken left : List UInt8)
    (result : Except IoError Unit) (w' : Writer) : Prop where
  stored : w'.stored = w.stored ++ taken
  flushes : w'.flushes = w.flushes
  succeeds : result = .ok () ↔ left = []
  /-- A writer without room stores nothing. -/
  room : taken ≠ [] → ¬ w.Spent faults
  /-- A write stops short only for good. -/
  stops : left ≠ [] → w'.Spent faults ∨ faults.chunk = some 0 ∧ taken = []

theorem writeAll_cons (faults : Faults) (b : UInt8) (rest : List UInt8) (w : Writer) :
    w.writeAll faults (b :: rest) =
      match w.write faults (b :: rest) with
      | (.interrupted, w') => w'.writeAll faults (b :: rest)
      | (.failed error, w') => (.error error, w')
      | (.accepted 0, w') => (.error .wholeBuffer, w')
      | (.accepted (count + 1), w') => w'.writeAll faults (rest.drop count) := by
  rw [writeAll]
  split
  all_goals
    next hcall => rw [hcall]

/-- A call that nothing comes of ends the whole write. -/
private theorem wrote_of_refused {bytes : List UInt8} (hbytes : bytes ≠ []) {reply : Reply}
    (hcalled : Called faults bytes w reply w')
    (hreply : reply = .accepted 0 ∨ ∃ e, reply = .failed e) (error : IoError) :
    ∃ taken left, bytes = taken ++ left ∧ Wrote faults w taken left (.error error) w' := by
  cases hcalled with
  | interrupted => simp at hreply
  | accepted => simp at hreply
  | refused _ hstop hstored hflushes =>
    refine ⟨[], bytes, rfl, by simpa using hstored, hflushes, by simp [hbytes], by simp, ?_⟩
    intro _
    rcases hstop with hspent | hchunk
    · exact .inl (hspent.of_stored_eq hstored)
    · exact .inr ⟨hchunk, rfl⟩

theorem wrote_writeAll (faults : Faults) (bytes : List UInt8) (w : Writer) :
    ∃ taken left, bytes = taken ++ left ∧
      Wrote faults w taken left (w.writeAll faults bytes).1 (w.writeAll faults bytes).2 := by
  -- along the calls: an interrupted one changes nothing, an accepted one stores a beginning and
  -- leaves the rest to those after it, and any other one is the last
  induction bytes, w using writeAll.induct faults with
  | case1 w => exact ⟨[], [], rfl, by constructor <;> simp [writeAll]⟩
  | case2 w b rest w' hcall ih =>
    have hcalled : Called faults (b :: rest) w _ _ := called_write (List.cons_ne_nil b rest) w
    rw [hcall] at hcalled
    rw [writeAll_cons, hcall]
    obtain ⟨taken, left, hbytes, hwrote⟩ := ih
    have hsame : w'.stored = w.stored ∧ w'.flushes = w.flushes := by
      cases hcalled with
      | interrupted hstored hflushes => exact ⟨hstored, hflushes⟩
      | refused hreply => simp at hreply
    refine ⟨taken, left, hbytes, ?_, ?_, hwrote.succeeds, ?_, hwrote.stops⟩
    · rw [hwrote.stored, hsame.1]
    · rw [hwrote.flushes, hsame.2]
    · exact fun htaken hspent => hwrote.room htaken (hspent.of_stored_eq hsame.1)
  | case3 w b rest error w' hcall =>
    have hcalled : Called faults (b :: rest) w _ _ := called_write (List.cons_ne_nil b rest) w
    rw [hcall] at hcalled
    rw [writeAll_cons, hcall]
    exact wrote_of_refused (List.cons_ne_nil b rest) hcalled (.inr ⟨error, rfl⟩) error
  | case4 w b rest w' hcall =>
    have hcalled : Called faults (b :: rest) w _ _ := called_write (List.cons_ne_nil b rest) w
    rw [hcall] at hcalled
    rw [writeAll_cons, hcall]
    exact wrote_of_refused (List.cons_ne_nil b rest) hcalled (.inl rfl) .wholeBuffer
  | case5 w b rest count w' hcall ih =>
    have hcalled : Called faults (b :: rest) w _ _ := called_write (List.cons_ne_nil b rest) w
    rw [hcall] at hcalled
    rw [writeAll_cons, hcall]
    obtain ⟨taken, left, hbytes, hwrote⟩ := ih
    cases hcalled with
    | accepted hroom hchunk hcount hstored hflushes =>
      refine ⟨b :: rest.take count ++ taken, left, ?_, ?_, ?_, hwrote.succeeds, fun _ => hroom, ?_⟩
      · rw [List.append_assoc, ← hbytes, List.cons_append, List.take_append_drop]
      · rw [hwrote.stored, hstored, List.append_assoc, List.take_succ_cons]
      · rw [hwrote.flushes, hflushes]
      · intro hleft
        rcases hwrote.stops hleft with hspent | ⟨hnone, _⟩
        · exact .inl hspent
        · exact absurd hnone hchunk
    | refused hreply => simp at hreply

/-- A write that succeeded has stored all of the bytes. -/
theorem stored_of_writeAll {bytes : List UInt8} (h : w.writeAll faults bytes = (.ok (), w')) :
    w'.stored = w.stored ++ bytes := by
  obtain ⟨taken, left, hbytes, hwrote⟩ := wrote_writeAll faults bytes w
  rw [h] at hwrote
  rw [hwrote.stored, hbytes, hwrote.succeeds.1 rfl, List.append_nil]

theorem writeAll_eq_ok (h : faults.Reliable) (bytes : List UInt8) (w : Writer) :
    (w.writeAll faults bytes).1 = .ok () := by
  obtain ⟨taken, left, _, hwrote⟩ := wrote_writeAll faults bytes w
  refine hwrote.succeeds.2 ?_
  cases left with
  | nil => rfl
  | cons b rest =>
    rcases hwrote.stops (List.cons_ne_nil b rest) with ⟨room, hroom, _⟩ | ⟨hchunk, _⟩
    · rw [h.room] at hroom
      cases hroom
    · exact absurd hchunk h.chunk

/-! ## Flushes -/

@[simp] theorem stored_flush (faults : Faults) (w : Writer) :
    (w.flush faults).2.stored = w.stored := by
  unfold flush
  cases faults.flushFault with
  | none => rfl
  | some fault => by_cases h : w.flushes + 1 = fault.turn <;> simp [h]

/-- A writer of which no flush fails. -/
theorem flush_eq_ok (h : faults.flushFault = none) (w : Writer) : (w.flush faults).1 = .ok () := by
  simp [flush, h]

end Writer

/-! ## Sequences of writes -/

namespace Output

variable {α β : Type}

@[simp] theorem carryOut_put (faults : Faults) (bytes : List UInt8) (w : Writer) :
    (put faults bytes).carryOut w = w.writeAll faults bytes := rfl

/-- The second of two actions starts where the first has ended, and only if that did not fail. -/
theorem carryOut_bind (action : Output α) (next : α → Output β) (w : Writer) :
    (action >>= next).carryOut w =
      match action.carryOut w with
      | (.ok a, w') => (next a).carryOut w'
      | (.error e, w') => (.error e, w') := by
  unfold carryOut ExceptT.run StateT.run Id.run
  simp only [bind, ExceptT.bind, ExceptT.mk, StateT.bind, ExceptT.bindCont]
  cases action w with
  | mk result w' => cases result <;> rfl

/-- Two actions succeed if both do, the second where the first has ended. -/
theorem bind_eq_ok {action : Output α} {next : α → Output β} {b : β} {w w'' : Writer} :
    (action >>= next).carryOut w = (.ok b, w'') ↔
      ∃ a w', action.carryOut w = (.ok a, w') ∧ (next a).carryOut w' = (.ok b, w'') := by
  rw [carryOut_bind]
  rcases action.carryOut w with ⟨_ | a, w'⟩
  · simp
  · refine ⟨fun h => ⟨a, w', rfl, h⟩, ?_⟩
    rintro ⟨_, _, ⟨⟩, h⟩
    exact h

end Output

end GreetingCheck
