import Mathlib.Algebra.Ring.Nat
import Mathlib.Data.List.Forall2
import DocStore.Cursor
import DocStore.Proofs.Outcome
import DocStore.Proofs.Record.Dates

namespace DocStore

-- Whether the documents, with their dates, are read as the records, in order.
def Reads {α : Type} (decode : Decoder α) (docs : List Document) (records : List α) : Prop :=
  List.Forall₂ (fun d record => decode (Record.coerceDates d) = .ok record) docs records

-- A fetch of the next record, if there is no limit, or of up to so many; zero
-- stands for all.
structure Fetch where
  Record : Type
  decode : Decoder Record
  limit : Option Nat

-- How many records a fetch asks for of those that are left.
def Fetch.share (f : Fetch) (left : Nat) : Nat :=
  match f.limit with
  | none => min 1 left
  | some 0 => left
  | some limit => min limit left

theorem Fetch.share_le (f : Fetch) (left : Nat) : f.share left ≤ left := by
  unfold share
  split <;> omega

-- What a fetch reads.
def Fetch.perform (f : Fetch) (c : Cursor) : Except DbError (List f.Record) × Cursor :=
  match f.limit with
  | none => ((c.fetchOne f.decode).1.map Option.toList, (c.fetchOne f.decode).2)
  | some limit => c.fetchMany f.decode limit

-- A fetch as it is carried out, where `size` tells how many bytes a record of
-- each type takes.
def Fetch.collect (size : Type → Nat) (f : Fetch) (c : Cursor) :
    Except Cursor.FetchError (List f.Record) × Cursor :=
  match f.limit with
  | none => (((c.fetchOne f.decode).1.map Option.toList).mapError .failed, (c.fetchOne f.decode).2)
  | some limit => c.collectMany (size f.Record) f.decode limit

-- A fetch and what came of it.
structure Fetched where
  fetch : Fetch
  answer : Except Cursor.FetchError (List fetch.Record)

-- The records that were delivered, each with the fetch that asked for it.
def Fetched.records (a : Fetched) : List (Σ f : Fetch, f.Record) :=
  match a.answer with
  | .ok records => records.map (Sigma.mk a.fetch)
  | .error _ => []

-- Whether the documents, with their dates, are read as the records, each by the
-- decoder of its fetch.
def Delivers (docs : List Document) (records : List (Σ f : Fetch, f.Record)) : Prop :=
  List.Forall₂ (fun d r => ∃ dated, Record.Dated d dated ∧ r.1.decode dated = .ok r.2) docs records

theorem delivers_of_reads {f : Fetch} {docs : List Document} {records : List f.Record}
    (h : Reads f.decode docs records) : Delivers docs (records.map (Sigma.mk f)) :=
  List.forall₂_map_right_iff.mpr
    (h.imp fun d _ hread => ⟨Record.coerceDates d, Record.dated_iff.mpr rfl, hread⟩)

-- How many records each of some fetches asks for, one after the other.
def shares : Nat → List Fetch → List Nat
  | _, [] => []
  | left, f :: rest => f.share left :: shares (left - f.share left) rest

namespace Cursor

-- Fetches made one after the other.
def fetchEach (size : Type → Nat) : List Fetch → Cursor → List Fetched × Cursor
  | [], c => ([], c)
  | f :: rest, c =>
    let fetched := f.collect size c
    let others := fetchEach size rest fetched.2
    (⟨f, fetched.1⟩ :: others.1, others.2)

-- The cursor with so many documents of its stream behind it.
def past (c : Cursor) (stream : ResultStream) (n : Nat) : Cursor :=
  { c with stream := some { stream with rest := stream.rest.drop n } }

section

variable {α : Type} {decode : Decoder α} {c c' : Cursor} {stream : ResultStream} {limit width chunk : Nat}

theorem past_zero (hs : c.stream = some stream) : c.past stream 0 = c := by
  simp only [past, List.drop_zero, ← hs]

theorem fetchOne_nil (hs : c.stream = some { rest := [] }) (he : c.error = none) :
    c.fetchOne decode = (.ok none, c) := by
  have hready : c.ready = .ok { rest := [] } := by simp [ready, hs, he]
  simp [fetchOne, hready, ResultStream.next, decodeNext, ← hs]

theorem fetchOne_cons {d : Document} {rest : List Document} (hs : c.stream = some { rest := d :: rest })
    (he : c.error = none) :
    c.fetchOne decode =
      match decode (Record.coerceDates d) with
      | .ok record => (.ok (some record), { c with stream := some { rest } })
      | .error e => (.error e, { c with stream := some { rest }, error := some (.fetch e.message) }) := by
  have hready : c.ready = .ok { rest := d :: rest } := by simp [ready, hs, he]
  have hnext : ({ rest := d :: rest } : ResultStream).next = (.ok (some d), { rest }) := rfl
  simp only [fetchOne, hready, hnext, decodeNext]
  cases decode (Record.coerceDates d) <;> rfl

-- A fetch that succeeds has met the end of the stream or read a document of it.
theorem fetchOne_ok {next : Option α} (hs : c.stream = some stream) (he : c.error = none)
    (h : c.fetchOne decode = (.ok next, c')) :
    (stream.rest = [] ∧ next = none ∧ c' = c) ∨
      ∃ d rest record, stream.rest = d :: rest ∧ decode (Record.coerceDates d) = .ok record ∧
        next = some record ∧ c' = c.past stream 1 := by
  obtain ⟨docs, isClosed⟩ := stream
  cases isClosed with
  | true =>
      have hready : c.ready = .ok ⟨docs, true⟩ := by simp [ready, hs, he]
      simp only [fetchOne, hready, ResultStream.next, if_true, decodeNext] at h
      cases h
  | false =>
      cases docs with
      | nil =>
          rw [fetchOne_nil hs he] at h
          cases h
          exact Or.inl ⟨rfl, rfl, rfl⟩
      | cons d rest =>
          rw [fetchOne_cons hs he] at h
          cases hread : decode (Record.coerceDates d) with
          | error e =>
              rw [hread] at h
              cases h
          | ok record =>
              rw [hread] at h
              cases h
              exact Or.inr ⟨d, rest, record, rfl, hread, rfl, rfl⟩

-- What is read, if nothing fails, is as much as is asked for or as there is, in order, and no more.
theorem readUpTo_ok {n : Nat} {before records : List α} (hs : c.stream = some stream) (he : c.error = none)
    (h : readUpTo decode n before c = (.ok records, c')) :
    ∃ read, records = before ++ read ∧ Reads decode (stream.rest.take n) read ∧
      c' = c.past stream (min n stream.rest.length) := by
  induction n generalizing before c stream with
  | zero =>
      cases h
      rw [Nat.zero_min, past_zero hs]
      exact ⟨[], by simp, List.Forall₂.nil, rfl⟩
  | succ n ih =>
      unfold readUpTo at h
      split at h
      · next record c₁ hfetch =>
          rcases fetchOne_ok hs he hfetch with ⟨_, hnone, _⟩ | ⟨d, rest, read, hrest, hread, hnext, hc₁⟩
          · cases hnone
          · cases hnext
            have hs₁ : c₁.stream = some { stream with rest } := by simp [hc₁, past, hrest]
            have he₁ : c₁.error = none := by rw [hc₁]; exact he
            obtain ⟨read, hrecords, hreads, hc'⟩ := ih hs₁ he₁ h
            refine ⟨record :: read, by simp [hrecords], ?_, ?_⟩
            · rw [hrest, List.take_succ_cons]
              exact List.Forall₂.cons hread hreads
            · rw [hc', hc₁]
              simp [past, hrest, Nat.succ_min_succ]
      · next c₁ hfetch =>
          rcases fetchOne_ok hs he hfetch with ⟨hrest, _, hc₁⟩ | ⟨_, _, _, _, _, hnext, _⟩
          · cases h
            rw [hrest, List.length_nil, Nat.min_zero, past_zero hs]
            exact ⟨[], by simp, List.Forall₂.nil, hc₁⟩
          · cases hnext
      · cases h

theorem fetchMany_ok {records : List α} (hs : c.stream = some stream) (he : c.error = none)
    (h : c.fetchMany decode limit = (.ok records, c')) :
    Reads decode (stream.rest.take (c.wanted limit)) records ∧
      c' = c.past stream (min (c.wanted limit) stream.rest.length) := by
  obtain ⟨read, rfl, hreads, hc'⟩ := readUpTo_ok hs he h
  exact ⟨hreads, hc'⟩

-- What can be read is read.
theorem readUpTo_of_reads {docs : List Document} {before records : List α} {n : Nat}
    (hs : c.stream = some { rest := docs }) (he : c.error = none) (hreads : Reads decode docs records)
    (hn : docs.length < n) : (readUpTo decode n before c).1 = .ok (before ++ records) := by
  induction hreads generalizing n before c with
  | nil =>
      cases n with
      | zero => omega
      | succ n => simp [readUpTo, fetchOne_nil hs he]
  | @cons d record rest others hread _ ih =>
      have hrest : Cursor.stream { c with stream := some { rest } } = some { rest } := rfl
      cases n with
      | zero => omega
      | succ n =>
          simp only [readUpTo, fetchOne_cons hs he, hread]
          rw [ih hrest he (by simpa using hn), List.append_assoc, List.singleton_append]

theorem fetchAll_of_reads {docs : List Document} {records : List α}
    (hs : c.stream = some { rest := docs }) (he : c.error = none) (hreads : Reads decode docs records) :
    (c.fetchAll decode).1 = .ok records := by
  have hwanted : c.wanted 0 = docs.length + 1 := by simp [wanted, remaining, hs]
  rw [fetchAll, fetchMany, hwanted, readUpTo_of_reads hs he hreads (Nat.lt_succ_self _), List.nil_append]

-- The cursor with other settings or another session.
def within (c : Cursor) (scope : Scope) : Cursor := { c with scope }

theorem fetchOne_within (decode : Decoder α) (c : Cursor) (scope : Scope) :
    (c.within scope).fetchOne decode =
      ((c.fetchOne decode).1, (c.fetchOne decode).2.within scope) := by
  have hready : (c.within scope).ready = c.ready := rfl
  simp only [fetchOne, hready]
  split
  · rfl
  · split <;> rfl

theorem readUpTo_within (decode : Decoder α) (scope : Scope) (n : Nat) (before : List α) (c : Cursor) :
    readUpTo decode n before (c.within scope) =
      ((readUpTo decode n before c).1, (readUpTo decode n before c).2.within scope) := by
  induction n generalizing before c with
  | zero => rfl
  | succ n ih =>
      unfold readUpTo
      rw [fetchOne_within]
      cases hfetch : c.fetchOne decode with
      | mk answer c₁ =>
          cases answer with
          | error e => rfl
          | ok next =>
              cases next with
              | none => rfl
              | some record => exact ih (before ++ [record]) c₁

theorem fetchMany_within (decode : Decoder α) (limit : Nat) (c : Cursor) (scope : Scope) :
    (c.within scope).fetchMany decode limit =
      ((c.fetchMany decode limit).1, (c.fetchMany decode limit).2.within scope) :=
  readUpTo_within decode scope (c.wanted limit) [] c

theorem roomFor_cases (width room : Nat) :
    roomFor width room = .ok room ∨ roomFor width room = .error .capacityOverflow := by
  unfold roomFor
  split
  · exact Or.inl rfl
  · exact Or.inr rfl

-- Making room changes no records, or there is none to be had.
theorem ensureRoom_cases (b : Batch α) (width chunk : Nat) :
    (∃ room, b.ensureRoom width chunk = .ok { b with room }) ∨
      b.ensureRoom width chunk = .error .capacityOverflow := by
  unfold Batch.ensureRoom
  split
  · rcases roomFor_cases width (b.room + chunk) with hroom | hroom
    · exact Or.inl ⟨b.room + chunk, by rw [hroom]; rfl⟩
    · exact Or.inr (by rw [hroom]; rfl)
  · exact Or.inl ⟨b.room, rfl⟩

-- Unless there is no room, batches make no difference.
theorem fillBatch_eq (decode : Decoder α) (width chunk n : Nat) (b : Batch α) (c : Cursor) :
    (fillBatch decode width chunk n b c).1 = .error .capacityOverflow ∨
      fillBatch decode width chunk n b c =
        ((readUpTo decode n b.records c).1.mapError .failed, (readUpTo decode n b.records c).2) := by
  induction n generalizing b c with
  | zero => exact Or.inr rfl
  | succ n ih =>
      unfold fillBatch readUpTo
      rcases ensureRoom_cases b width chunk with ⟨room, hroom⟩ | hfull
      · rw [hroom]
        cases hfetch : c.fetchOne decode with
        | mk answer c₁ =>
            cases answer with
            | error e => exact Or.inr rfl
            | ok next =>
                cases next with
                | none => exact Or.inr rfl
                | some record => exact ih { records := b.records ++ [record], room } c₁
      · rw [hfull]
        exact Or.inl rfl

theorem collectMany_eq (width : Nat) (decode : Decoder α) (limit : Nat) (c : Cursor) :
    (c.collectMany width decode limit).1 = .error .capacityOverflow ∨
      c.collectMany width decode limit =
        ((c.fetchMany decode limit).1.mapError .failed, (c.fetchMany decode limit).2) := by
  unfold collectMany
  rcases roomFor_cases width (c.firstRoom limit) with hroom | hroom
  · rw [hroom]
    exact fillBatch_eq decode width c.chunkSize (c.wanted limit) ⟨[], c.firstRoom limit⟩ c
  · rw [hroom]
    exact Or.inl rfl

-- A stream has nothing more to give, or its first document.
theorem next_cases (stream : ResultStream) :
    (stream.next.2 = stream ∧ ∀ d, stream.next.1 ≠ .ok (some d)) ∨
      ∃ d rest, stream.rest = d :: rest ∧ stream.next = (.ok (some d), { stream with rest }) := by
  unfold ResultStream.next
  split
  · exact Or.inl ⟨rfl, nofun⟩
  · split
    · exact Or.inl ⟨rfl, nofun⟩
    · next d rest hrest => exact Or.inr ⟨d, rest, hrest, rfl⟩

theorem ready_eq_ok_iff : c.ready = .ok stream ↔ c.error = none ∧ c.stream = some stream := by
  unfold ready
  split <;> simp_all

-- A fetch leaves the settings as they are. A record that it reads is one document fewer.
theorem fetchOne_keeps (decode : Decoder α) (c : Cursor) :
    (c.fetchOne decode).2.scope = c.scope ∧ (c.fetchOne decode).2.remaining ≤ c.remaining ∧
      ∀ record, (c.fetchOne decode).1 = .ok (some record) →
        (c.fetchOne decode).2.remaining < c.remaining := by
  cases hready : c.ready with
  | error e =>
      simp only [fetchOne, hready]
      exact ⟨trivial, le_rfl, nofun⟩
  | ok stream =>
      have hleft : c.remaining = stream.rest.length := by simp [remaining, (ready_eq_ok_iff.mp hready).2]
      have hafter : (c.fetchOne decode).2.scope = c.scope ∧
          (c.fetchOne decode).2.remaining = stream.next.2.rest.length := by
        simp only [fetchOne, hready]
        split <;> exact ⟨rfl, rfl⟩
      rw [hafter.1, hafter.2, hleft]
      refine ⟨rfl, ?_⟩
      rcases next_cases stream with ⟨hsame, hnothing⟩ | ⟨d, rest, hrest, hnext⟩
      · rw [hsame]
        refine ⟨le_rfl, fun record hrecord => ?_⟩
        simp only [fetchOne, hready] at hrecord
        cases hnext : stream.next.1 with
        | error e => simp [hnext, decodeNext] at hrecord
        | ok next =>
            cases next with
            | none => simp [hnext, decodeNext] at hrecord
            | some d => exact absurd hnext (hnothing d)
      · simp [hnext, hrest]

theorem ensureRoom_of_fits {b : Batch α} (h : width * (b.records.length + chunk) ≤ Integer.max64) :
    ∃ room, b.ensureRoom width chunk = .ok { b with room } := by
  unfold Batch.ensureRoom
  split
  · next hfull =>
      rw [hfull] at h
      exact ⟨b.room + chunk, by rw [roomFor, if_pos h]; rfl⟩
  · exact ⟨b.room, rfl⟩

theorem readUpTo_keeps (decode : Decoder α) (n : Nat) (before : List α) (c : Cursor) :
    (readUpTo decode n before c).2.scope = c.scope ∧ (readUpTo decode n before c).2.remaining ≤ c.remaining := by
  induction n generalizing before c with
  | zero => exact ⟨rfl, le_rfl⟩
  | succ n ih =>
      obtain ⟨hscope, hremaining, -⟩ := fetchOne_keeps decode c
      unfold readUpTo
      cases hfetch : c.fetchOne decode with
      | mk answer c₁ =>
          rw [hfetch] at hscope hremaining
          cases answer with
          | error e => exact ⟨hscope, hremaining⟩
          | ok next =>
              cases next with
              | none => exact ⟨hscope, hremaining⟩
              | some record =>
                  obtain ⟨hscope', hremaining'⟩ := ih (before ++ [record]) c₁
                  exact ⟨hscope'.trans hscope, hremaining'.trans hremaining⟩

-- There is room for a batch of as many records as are left, and for one more chunk.
theorem fillBatch_fits {n total : Nat} {b : Batch α} (hfits : width * (total + chunk) ≤ Integer.max64)
    (htotal : b.records.length + c.remaining ≤ total) :
    (fillBatch decode width chunk n b c).1 ≠ .error .capacityOverflow := by
  induction n generalizing b c with
  | zero => exact nofun
  | succ n ih =>
      have hmore : width * (b.records.length + chunk) ≤ Integer.max64 :=
        le_trans (Nat.mul_le_mul_left _ (by omega)) hfits
      obtain ⟨room, hroom⟩ := ensureRoom_of_fits hmore
      obtain ⟨-, -, hfewer⟩ := fetchOne_keeps decode c
      unfold fillBatch
      rw [hroom]
      cases hfetch : c.fetchOne decode with
      | mk answer c₁ =>
          rw [hfetch] at hfewer
          cases answer with
          | error e => exact nofun
          | ok next =>
              cases next with
              | none => exact nofun
              | some record =>
                  refine ih ?_
                  have hless : c₁.remaining < c.remaining := hfewer record rfl
                  simp only [List.length_append, List.length_singleton]
                  omega

theorem collectMany_fits (decode : Decoder α) (limit : Nat)
    (hfits : width * (c.remaining + c.chunkSize) ≤ Integer.max64) :
    (c.collectMany width decode limit).1 ≠ .error .capacityOverflow := by
  have hfirst : width * c.firstRoom limit ≤ Integer.max64 := by
    refine le_trans (Nat.mul_le_mul_left _ ?_) hfits
    unfold firstRoom
    split <;> omega
  rw [collectMany, roomFor, if_pos hfirst]
  exact fillBatch_fits hfits (by simp)

end

end Cursor

namespace Fetch

variable {f : Fetch} {c c' : Cursor} {stream : ResultStream} {size : Type → Nat}

-- A fetch that succeeds delivers what it asks for, in order, and takes no more of the stream.
theorem perform_ok {records : List f.Record} (hs : c.stream = some stream) (he : c.error = none)
    (h : f.perform c = (.ok records, c')) :
    Reads f.decode (stream.rest.take (f.share stream.rest.length)) records ∧
      c' = c.past stream (f.share stream.rest.length) := by
  obtain ⟨Record, decode, limit⟩ := f
  cases limit with
  | some limit =>
      obtain ⟨hreads, hc'⟩ := Cursor.fetchMany_ok hs he h
      have hshare : share ⟨Record, decode, some limit⟩ stream.rest.length =
          min (c.wanted limit) stream.rest.length := by
        cases limit with
        | zero => simp [share, Cursor.wanted, Cursor.remaining, hs]
        | succ limit => rfl
      have htake : stream.rest.take (min (c.wanted limit) stream.rest.length) =
          stream.rest.take (c.wanted limit) := by
        simp
      rw [hshare, htake]
      exact ⟨hreads, hc'⟩
  | none =>
      obtain ⟨next, hnext, hrecords⟩ := Except.map_eq_ok_iff.mp (congrArg Prod.fst h)
      have hc' : (c.fetchOne decode).2 = c' := congrArg Prod.snd h
      have hone : c.fetchOne decode = (.ok next, c') := Prod.ext hnext hc'
      subst hrecords
      rcases Cursor.fetchOne_ok hs he hone with ⟨hrest, rfl, rfl⟩ | ⟨d, rest, record, hrest, hread, rfl, rfl⟩
      · simp only [share, hrest]
        exact ⟨List.Forall₂.nil, (Cursor.past_zero hs).symm⟩
      · have hshare : share ⟨Record, decode, none⟩ stream.rest.length = 1 := by simp [share, hrest]
        rw [hshare, hrest]
        exact ⟨List.Forall₂.cons hread .nil, rfl⟩

theorem perform_within (f : Fetch) (c : Cursor) (scope : Scope) :
    f.perform (c.within scope) = ((f.perform c).1, (f.perform c).2.within scope) := by
  obtain ⟨Record, decode, limit⟩ := f
  cases limit with
  | some limit => exact Cursor.fetchMany_within decode limit c scope
  | none =>
      have hone := Cursor.fetchOne_within decode c scope
      simp only [perform, hone]

-- A fetch that finds room is carried out as it reads.
theorem collect_eq (size : Type → Nat) (f : Fetch) (c : Cursor) :
    (f.collect size c).1 = .error .capacityOverflow ∨
      f.collect size c = ((f.perform c).1.mapError .failed, (f.perform c).2) := by
  obtain ⟨Record, decode, limit⟩ := f
  cases limit with
  | none => exact Or.inr rfl
  | some limit => exact Cursor.collectMany_eq (size Record) decode limit c

theorem collect_ok {records : List f.Record} (hs : c.stream = some stream) (he : c.error = none)
    (h : f.collect size c = (.ok records, c')) :
    Reads f.decode (stream.rest.take (f.share stream.rest.length)) records ∧
      c' = c.past stream (f.share stream.rest.length) := by
  rcases f.collect_eq size c with hfull | hown
  · rw [h] at hfull
    cases hfull
  · refine perform_ok hs he ?_
    rw [h] at hown
    cases hf : f.perform c with
    | mk answer c₁ =>
        rw [hf] at hown
        cases answer with
        | error e => cases hown
        | ok read =>
            cases hown
            rfl

theorem collect_fits (f : Fetch) (hfits : size f.Record * (c.remaining + c.chunkSize) ≤ Integer.max64) :
    (f.collect size c).1 ≠ .error .capacityOverflow := by
  obtain ⟨Record, decode, limit⟩ := f
  cases limit with
  | none =>
      simp only [collect]
      cases (c.fetchOne decode).1 <;> exact nofun
  | some limit => exact Cursor.collectMany_fits decode limit hfits

-- A fetch leaves no more documents than there were, and the settings as they were.
theorem perform_keeps (f : Fetch) (c : Cursor) :
    (f.perform c).2.scope = c.scope ∧ (f.perform c).2.remaining ≤ c.remaining := by
  obtain ⟨Record, decode, limit⟩ := f
  cases limit with
  | none => exact ⟨(Cursor.fetchOne_keeps decode c).1, (Cursor.fetchOne_keeps decode c).2.1⟩
  | some limit => exact Cursor.readUpTo_keeps decode (c.wanted limit) [] c

end Fetch

namespace Cursor

variable {c : Cursor} {stream : ResultStream} {fetches : List Fetch} {size : Type → Nat}

theorem fetchEach_fetches (fetches : List Fetch) (c : Cursor) :
    (fetchEach size fetches c).1.map Fetched.fetch = fetches := by
  induction fetches generalizing c with
  | nil => rfl
  | cons f rest ih => simp [fetchEach, ih]

-- The same fetches under other settings have the same answers, unless one finds no room.
theorem fetchEach_within (scope : Scope)
    (hroom : ∀ a ∈ (fetchEach size fetches c).1, a.answer ≠ .error .capacityOverflow)
    (hroom' : ∀ a ∈ (fetchEach size fetches (c.within scope)).1, a.answer ≠ .error .capacityOverflow) :
    (fetchEach size fetches (c.within scope)).1 = (fetchEach size fetches c).1 := by
  induction fetches generalizing c with
  | nil => rfl
  | cons f rest ih =>
      obtain ⟨hfirst, hothers⟩ := List.forall_mem_cons.mp hroom
      obtain ⟨hfirst', hothers'⟩ := List.forall_mem_cons.mp hroom'
      have hown := (f.collect_eq size c).resolve_left hfirst
      have hother := (f.collect_eq size (c.within scope)).resolve_left hfirst'
      rw [f.perform_within] at hother
      simp only [fetchEach, hown, hother] at hothers hothers' ⊢
      rw [ih hothers hothers']

-- There is room for every fetch if there is room for all that is left and one chunk more.
theorem fetchEach_fits
    (hfits : ∀ f ∈ fetches, size f.Record * (c.remaining + c.chunkSize) ≤ Integer.max64) :
    ∀ a ∈ (fetchEach size fetches c).1, a.answer ≠ .error .capacityOverflow := by
  induction fetches generalizing c with
  | nil => exact fun a ha => nomatch ha
  | cons f rest ih =>
      obtain ⟨hfirst, hothers⟩ := List.forall_mem_cons.mp hfits
      have hroom := f.collect_fits hfirst
      have hown := (f.collect_eq size c).resolve_left hroom
      obtain ⟨hscope, hremaining⟩ := f.perform_keeps c
      have hchunk : (f.perform c).2.chunkSize = c.chunkSize := by simp only [chunkSize, hscope]
      refine List.forall_mem_cons.mpr ⟨hroom, ?_⟩
      rw [hown]
      refine ih fun g hg => le_trans (Nat.mul_le_mul_left _ ?_) (hothers g hg)
      rw [hchunk]
      exact Nat.add_le_add_right hremaining _

-- Fetches that succeed split the front of the stream among them.
theorem fetchEach_ok (hs : c.stream = some stream) (he : c.error = none)
    (hok : ∀ a ∈ (fetchEach size fetches c).1, a.answer.isOk = true) :
    (fetchEach size fetches c).1.map (·.records.length) = shares stream.rest.length fetches ∧
      Delivers (stream.rest.take (shares stream.rest.length fetches).sum)
        ((fetchEach size fetches c).1.flatMap Fetched.records) ∧
      (fetchEach size fetches c).2 = c.past stream (shares stream.rest.length fetches).sum := by
  induction fetches generalizing c stream with
  | nil => exact ⟨rfl, .nil, (past_zero hs).symm⟩
  | cons f rest ih =>
      cases hf : f.collect size c with
      | mk answer c₁ =>
          have heach : fetchEach size (f :: rest) c =
              (⟨f, answer⟩ :: (fetchEach size rest c₁).1, (fetchEach size rest c₁).2) := by
            simp only [fetchEach, hf]
          rw [heach] at hok ⊢
          obtain ⟨hfirst, hothers⟩ := List.forall_mem_cons.mp hok
          cases answer with
          | error e => cases hfirst
          | ok records =>
              obtain ⟨hreads, rfl⟩ := Fetch.collect_ok hs he hf
              have hle := f.share_le stream.rest.length
              generalize hn : f.share stream.rest.length = n at hreads hothers hle
              have hcount : records.length = n := by
                rw [← hreads.length_eq, List.length_take, Nat.min_eq_left hle]
              have hs₁ : (c.past stream n).stream = some { stream with rest := stream.rest.drop n } := rfl
              obtain ⟨hsizes, hall, hlast⟩ := ih hs₁ he hothers
              have hrecords : Fetched.records ⟨f, .ok records⟩ = records.map (Sigma.mk f) := rfl
              simp only [List.length_drop] at hsizes hall hlast
              simp only [shares, hn, List.map_cons, List.flatMap_cons, List.sum_cons, hrecords,
                List.length_map, hcount, hsizes, true_and]
              refine ⟨?_, ?_⟩
              · rw [List.take_add]
                exact List.rel_append (delivers_of_reads hreads) hall
              · rw [hlast]
                simp [past, List.drop_drop]

-- A stream is delivered once and in order, however it is fetched: each fetch has as
-- many records as it asks for of those that are left, and leaves the rest. Whatever
-- the settings, the answers are the same, unless a batch is larger than any memory;
-- none is that is not larger than what is left and one chunk more.
theorem fetches_deliver_stream (size : Type → Nat) (scope : Scope) (stream : ResultStream)
    (spec : Option CountSpec) (fetches : List Fetch)
    (hok : ∀ a ∈ (fetchEach size fetches (opened scope stream spec)).1, a.answer.isOk = true) :
    let fetched := fetchEach size fetches (opened scope stream spec)
    let sizes := shares stream.rest.length fetches
    fetched.1.map Fetched.fetch = fetches ∧
      fetched.1.map (·.records.length) = sizes ∧
      Delivers (stream.rest.take sizes.sum) (fetched.1.flatMap Fetched.records) ∧
      fetched.2.stream = some { stream with rest := stream.rest.drop sizes.sum } ∧
      ∀ config : Config,
        let others := (fetchEach size fetches (opened { scope with config } stream spec)).1
        ((∀ a ∈ others, a.answer ≠ .error .capacityOverflow) → others = fetched.1) ∧
          ((∀ f ∈ fetches,
              size f.Record * (stream.rest.length + max config.fetchBatchSize 1) ≤ Integer.max64) →
            ∀ a ∈ others, a.answer ≠ .error .capacityOverflow) := by
  intro fetched sizes
  obtain ⟨hsizes, hall, hlast⟩ := fetchEach_ok (c := opened scope stream spec) rfl rfl hok
  have hroom : ∀ a ∈ fetched.1, a.answer ≠ .error .capacityOverflow := fun a ha hfull => by
    have hanswer := hok a ha
    rw [hfull] at hanswer
    cases hanswer
  refine ⟨fetchEach_fetches fetches _, hsizes, hall, congrArg Cursor.stream hlast, fun config => ?_⟩
  exact ⟨fetchEach_within (c := opened scope stream spec) { scope with config } hroom,
    fetchEach_fits (c := opened { scope with config } stream spec)⟩

def threeDocuments : List Document :=
  [[("_id", .int32 1), ("at", .string "2024-03-01T10:20:30Z")], [("_id", .int32 2)], [("_id", .int32 3)]]

def datedDocuments : List Document :=
  [[("_id", .int32 1), ("at", .date 1709288430000)], [("_id", .int32 2)], [("_id", .int32 3)]]

theorem dated_threeDocuments : List.Forall₂ Record.Dated threeDocuments datedDocuments := by
  have hdenotes : Timestamp.Denotes "2024-03-01T10:20:30Z" (1709288430000 : Int64).toInt :=
    Record.denotes_iff.mpr ⟨by decide +kernel, by decide +kernel⟩
  have hid (n : Int32) : Record.DatedValue (.int32 n) (.int32 n) := .other fun _ _ h => nomatch h
  refine .cons (.cons ⟨rfl, hid 1⟩ (.cons ⟨rfl, .date hdenotes⟩ .nil)) (.cons ?_ (.cons ?_ .nil))
  · exact .cons ⟨rfl, hid 2⟩ .nil
  · exact .cons ⟨rfl, hid 3⟩ .nil

-- A stream of three documents is fetched without any batch size.
def mixedFetches : List Fetch :=
  [⟨Document, Document.asRecord, some 2⟩, ⟨Document, Document.asRecord, some 0⟩,
    ⟨Document, Document.asRecord, none⟩]

theorem fetches_deliver_threeDocuments :
    let scope : Scope := { config := { fetchBatchSize := 0 } }
    let fetched := fetchEach (fun _ => 88) mixedFetches (opened scope ⟨threeDocuments, false⟩ none)
    (∀ a ∈ fetched.1, a.answer.isOk = true) ∧ fetched.1.map (·.records.length) = [2, 1, 0] ∧
      Delivers threeDocuments (fetched.1.flatMap Fetched.records) ∧
      List.Forall₂ Record.Dated threeDocuments datedDocuments := by
  intro scope fetched
  have hok : ∀ a ∈ fetched.1, a.answer.isOk = true := by
    have hall : fetched.1.all (·.answer.isOk) = true := by decide +kernel
    exact List.all_eq_true.mp hall
  obtain ⟨_, hsizes, hall, _⟩ :=
    fetches_deliver_stream (fun _ => 88) scope ⟨threeDocuments, false⟩ none mixedFetches hok
  exact ⟨hok, hsizes, hall, dated_threeDocuments⟩

end Cursor

end DocStore
