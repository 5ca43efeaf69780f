import NetboxOpenbao.Administration.Snapshots
import NetboxOpenbao.Effect.Fallible

/-!
# A snapshot is read to its end or not at all

A read gives a chunk of the bytes that are still due, or nothing, or raises. Nothing is given for a read of some amount
only when every byte has been delivered. A stream that gives more than it was asked loses what it gave, so what is
delivered follows the stream up to there.
-/

namespace NetboxOpenbao

open Effect

namespace Cluster

/-- The bytes a stream gave with an answer. -/
def StreamAnswer.given : StreamAnswer → List UInt8
  | .bytes chunk => chunk
  | .other | .raised _ => []

namespace SnapshotRead

variable {σ : Type}

/-- The bytes the stream gave for a read. -/
def given (call : SnapshotRead σ) : List UInt8 := (call.answer.map StreamAnswer.given).getD []

/-- The bytes the read returned. -/
def returned (call : SnapshotRead σ) : List UInt8 :=
  match call.outcome with
  | .ok chunk => chunk
  | .error _ => []

def Raised (call : SnapshotRead σ) : Prop := ∃ error, call.outcome = .error error

/-- The read was refused, and bytes were lost with it. -/
def Lossy (call : SnapshotRead σ) : Prop := call.Raised ∧ call.given ≠ []

end SnapshotRead

namespace BoundedSnapshotReader

variable {σ : Type} {stream : SnapshotStream σ} {reader : BoundedSnapshotReader σ}

/-! ### One read -/

theorem requested_nonneg {remaining : Int} (h : 0 < remaining) (amount : Option Int) :
    0 ≤ requested remaining amount ∧ requested remaining amount ≤ remaining ∧
      (requested remaining amount = 0 → amount = some 0) := by
  unfold requested
  cases amount with
  | none => exact ⟨Int.le_of_lt h, Int.le_refl _, fun heq => absurd heq (Int.ne_of_gt h)⟩
  | some n =>
      dsimp only
      split
      · exact ⟨Int.le_of_lt h, Int.le_refl _, fun heq => absurd heq (Int.ne_of_gt h)⟩
      · next hin =>
          simp only [Bool.or_eq_true, decide_eq_true_eq, not_or] at hin
          exact ⟨by omega, by omega, fun heq => congrArg some heq⟩

/-- What a read can do. -/
inductive Step (reader : BoundedSnapshotReader σ) (amount : Option Int) (call : SnapshotRead σ) : Prop
  | quiet (ended : amount = some 0 ∨ reader.alreadyRead = reader.size) (result : call = ⟨.ok [], reader, none⟩)
  | refused (state : σ) (answer : StreamAnswer) (error : Error)
      (result : call = ⟨.error error, { reader with stream := state }, some answer⟩)
  | delivered (state : σ) (chunk : List UInt8) (some_bytes : chunk ≠ [])
      (within : reader.alreadyRead + chunk.length ≤ reader.size)
      (result : call = ⟨.ok chunk, ⟨state, reader.size, reader.alreadyRead + chunk.length⟩, some (.bytes chunk)⟩)

theorem read_step (stream : SnapshotStream σ) (hwithin : reader.alreadyRead ≤ reader.size) (amount : Option Int) :
    Step reader amount (reader.read stream amount) := by
  obtain ⟨answers⟩ := stream
  unfold read
  dsimp only
  split
  · exact .quiet (.inr (by omega)) rfl
  · next hremaining =>
      obtain ⟨hnonneg, hle, hzero⟩ := requested_nonneg (Int.not_le.mp hremaining) amount
      split
      · next h => exact .quiet (.inl (hzero (beq_iff_eq.mp h))) rfl
      · generalize answers reader.stream (requested (reader.size - reader.alreadyRead) amount).toNat = answered
        obtain ⟨answer, state⟩ := answered
        cases answer with
        | raised what => exact .refused state _ _ rfl
        | other => exact .refused state _ _ rfl
        | bytes chunk =>
            dsimp only
            split
            · exact .refused state _ _ rfl
            · next hsome =>
                split
                · exact .refused state _ _ rfl
                · next hfits =>
                    -- the last check of the source cannot fail
                    have hdelivered : reader.alreadyRead + chunk.length ≤ reader.size := by omega
                    rw [if_neg (Nat.not_lt.mpr hdelivered)]
                    exact .delivered state chunk (fun h => hsome (List.isEmpty_iff.mpr h)) hdelivered rfl

/-- An end of the stream is never passed on. -/
theorem read_of_end (stream : SnapshotStream σ) (hwithin : reader.alreadyRead ≤ reader.size) (amount : Option Int)
    (hend : (reader.read stream amount).answer = some (.bytes [])) : (reader.read stream amount).Raised := by
  cases read_step stream hwithin amount with
  | quiet _ result =>
      rw [result] at hend
      cases hend
  | refused state answer error result => exact ⟨error, congrArg SnapshotRead.outcome result⟩
  | delivered state chunk some_bytes _ result =>
      rw [result] at hend
      exact absurd (StreamAnswer.bytes.inj (Option.some.inj hend)) some_bytes

/-! ### Sequences of reads -/

/-- All the bytes the stream gave. -/
def given (calls : List (Option Int × SnapshotRead σ)) : List UInt8 := calls.flatMap fun call => call.2.given

/-- All the bytes the reads returned. -/
def returned (calls : List (Option Int × SnapshotRead σ)) : List UInt8 := calls.flatMap fun call => call.2.returned

@[simp] theorem returned_nil : returned ([] : List (Option Int × SnapshotRead σ)) = [] := rfl

@[simp] theorem returned_cons (call : Option Int × SnapshotRead σ) (calls : List (Option Int × SnapshotRead σ)) :
    returned (call :: calls) = call.2.returned ++ returned calls := rfl

/-- The law of the reads from a reader that has delivered `start` bytes of `size`. -/
structure Law (size start : Nat) (calls : List (Option Int × SnapshotRead σ)) : Prop where
  bounded : start + (returned calls).length ≤ size
  /-- What is returned is what the stream gave, as long as no bytes have been lost. -/
  follows : ∀ before after, calls = before ++ after → (∀ call ∈ before, ¬ call.2.Lossy) → returned before = given before
  /-- An empty chunk is returned for an amount of 0, or when all is delivered. -/
  empty : ∀ before call after, calls = before ++ call :: after → call.2.outcome = .ok [] →
    call.1 = some 0 ∨ start + (returned before).length = size
  ended : ∀ call ∈ calls, call.2.answer = some (.bytes []) → call.2.Raised
  /-- Reads that do not raise make progress until all is delivered. -/
  progress : (∀ call ∈ calls, call.1 ≠ some 0 ∧ ¬ call.2.Raised) →
    calls.length ≤ (returned calls).length ∨ start + (returned calls).length = size

theorem Law.nil {size start : Nat} (h : start ≤ size) : Law size start ([] : List (Option Int × SnapshotRead σ)) where
  bounded := h
  follows := fun before after heq _ => by
    obtain ⟨rfl, -⟩ := List.append_eq_nil_iff.mp heq.symm
    rfl
  empty := fun before call after heq _ => absurd heq (by simp)
  ended := fun _ hmem => absurd hmem List.not_mem_nil
  progress := fun _ => .inl (Nat.le_refl 0)

theorem Law.cons {amount : Option Int} {call : SnapshotRead σ} {calls : List (Option Int × SnapshotRead σ)}
    {size start : Nat} (hsame : ¬ call.Lossy → call.returned = call.given)
    (hempty : call.outcome = .ok [] → amount = some 0 ∨ start = size)
    (hended : call.answer = some (.bytes []) → call.Raised)
    (hrest : Law size (start + call.returned.length) calls) : Law size start ((amount, call) :: calls) where
  bounded := by
    rw [returned_cons, List.length_append, ← Nat.add_assoc]
    exact hrest.bounded
  follows := by
    intro before after heq hclear
    cases before with
    | nil => rfl
    | cons first before =>
        obtain ⟨rfl, htail⟩ := List.cons.inj heq
        obtain ⟨hfirst, hbefore⟩ := List.forall_mem_cons.mp hclear
        have hsuffix := hrest.follows before after htail hbefore
        rw [returned_cons, hsuffix, hsame hfirst]
        rfl
  empty := by
    intro before later after heq houtcome
    cases before with
    | nil =>
        obtain ⟨rfl, -⟩ := List.cons.inj heq
        exact hempty houtcome
    | cons first before =>
        obtain ⟨rfl, htail⟩ := List.cons.inj heq
        rw [returned_cons, List.length_append, ← Nat.add_assoc]
        exact hrest.empty before later after htail houtcome
  ended := List.forall_mem_cons.mpr ⟨hended, hrest.ended⟩
  progress := by
    intro hall
    obtain ⟨⟨hamount, hraised⟩, hlater⟩ := List.forall_mem_cons.mp hall
    rw [returned_cons, List.length_append, List.length_cons]
    cases houtcome : call.outcome with
    | error error => exact absurd ⟨error, houtcome⟩ hraised
    | ok chunk =>
        have hchunk : call.returned = chunk := by
          unfold SnapshotRead.returned
          rw [houtcome]
        rw [hchunk] at hrest ⊢
        have hbounded := hrest.bounded
        cases chunk with
        | nil =>
            have hdone : start = size := (hempty houtcome).resolve_left hamount
            rw [List.length_nil] at hbounded ⊢
            exact .inr (by omega)
        | cons byte bytes =>
            cases hrest.progress hlater with
            | inl hle => exact .inl (by rw [List.length_cons]; omega)
            | inr heq => exact .inr (by rw [← Nat.add_assoc]; exact heq)

/-- The reads of any amounts from a reader that has not delivered too much. -/
theorem reads_law (stream : SnapshotStream σ) (amounts : List (Option Int)) (reader : BoundedSnapshotReader σ)
    (hwithin : reader.alreadyRead ≤ reader.size) :
    Law reader.size reader.alreadyRead (reader.reads stream amounts) := by
  induction amounts generalizing reader with
  | nil => exact .nil hwithin
  | cons amount rest ih =>
      have hended := read_of_end stream hwithin amount
      unfold reads
      dsimp only
      generalize hcall : reader.read stream amount = call at hended
      cases hcall ▸ read_step stream hwithin amount with
      | quiet ended result =>
          subst result
          exact Law.cons (fun _ => rfl) (fun _ => ended) hended (ih reader hwithin)
      | refused state answer error result =>
          subst result
          refine Law.cons (fun hkept => ?_) (fun h => absurd h (by simp)) hended
            (ih { reader with stream := state } hwithin)
          exact (not_not.mp fun hgiven => hkept ⟨⟨error, rfl⟩, fun h => hgiven h.symm⟩)
      | delivered state chunk some_bytes within result =>
          subst result
          refine Law.cons (fun _ => rfl) (fun h => absurd (Except.ok.inj h) some_bytes) hended ?_
          exact ih ⟨state, reader.size, reader.alreadyRead + chunk.length⟩ within

theorem init_ok_iff (state : σ) (size : Json) (reader : BoundedSnapshotReader σ) :
    init state size = .ok reader ↔
      ∃ n : Nat, size = .int n ∧ 0 < n ∧ n ≤ maxSnapshotBytes ∧ reader = ⟨state, n, 0⟩ := by
  constructor
  · intro h
    unfold init at h
    split at h
    · next n =>
        split at h
        · next hrange =>
            simp only [Bool.and_eq_true, decide_eq_true_eq] at hrange
            exact ⟨n.toNat, by rw [Int.toNat_of_nonneg (by omega)], by omega, by omega, (Except.ok.inj h).symm⟩
        · cases h
    · cases h
  · rintro ⟨n, rfl, hpos, hle, rfl⟩
    unfold init
    dsimp only
    rw [if_pos (by simp only [Bool.and_eq_true, decide_eq_true_eq]; omega), Int.toNat_natCast]

/-- Any reads from a reader of any declared size and any stream: at most the declared size is returned, an empty chunk
only for an amount of 0 or when exactly the declared size has been delivered, the end of the stream always raises, and
as long as no chunk has been refused what was returned is what the stream gave. -/
theorem reads_are_bounded_prefix (stream : SnapshotStream σ) (state : σ) {size : Json}
    (hinit : init state size = .ok reader) (amounts : List (Option Int)) :
    ∃ n : Nat, size = .int n ∧ Law n 0 (reader.reads stream amounts) := by
  obtain ⟨n, hsize, -, -, rfl⟩ := (init_ok_iff state size reader).mp hinit
  exact ⟨n, hsize, reads_law stream amounts ⟨state, n, 0⟩ (Nat.zero_le n)⟩

/-! ### A short snapshot, and a chunk that is too long -/

/-- A stream that gives one answer after another, and then nothing. -/
def answering : SnapshotStream (List StreamAnswer) where
  read answers _ :=
    match answers with
    | [] => (.bytes [], [])
    | answer :: rest => (answer, rest)

theorem short_snapshot_raises : ∃ n : Nat, Json.int 8 = .int n ∧
    Law n 0 ((⟨[.bytes [115, 104, 111, 114, 116]], 8, 0⟩ : BoundedSnapshotReader _).reads answering [some 8, some 3]) :=
  reads_are_bounded_prefix answering [.bytes [115, 104, 111, 114, 116]]
    ((init_ok_iff _ _ _).mpr ⟨8, rfl, by decide, by decide, rfl⟩) [some 8, some 3]

/-- Eight bytes for a read of four are lost: what the next read returns is no start of what the stream gave. -/
theorem long_chunk_is_lost :
    ∃ reader, init [.bytes [1, 2, 3, 4, 5, 6, 7, 8], .bytes [9, 10]] (.int 8) = .ok reader ∧
      returned (reader.reads answering [some 4, some 4]) = [9, 10] ∧
      ¬ returned (reader.reads answering [some 4, some 4]) <+: given (reader.reads answering [some 4, some 4]) :=
  ⟨⟨_, 8, 0⟩, (init_ok_iff _ _ _).mpr ⟨8, rfl, by decide, by decide, rfl⟩, by decide, by decide⟩

end BoundedSnapshotReader

end Cluster

end NetboxOpenbao
