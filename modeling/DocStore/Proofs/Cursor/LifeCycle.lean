import DocStore.Proofs.Cursor.Fetch
import DocStore.Proofs.Cursor.Open

namespace DocStore

-- What can be done with a cursor.
inductive Use where
  | fetch (f : Fetch)
  | count
  | close

def Use.Answer : Use → Type
  | fetch f => List f.Record
  | count => Nat
  | close => Unit

-- A use of a cursor and what came of it.
structure Used where
  use : Use
  answer : Except DbError use.Answer

-- Whether none of the uses closes the cursor.
def NoClose (uses : List Use) : Prop := ∀ u ∈ uses, u ≠ .close

-- Whether every fetch fails in this way.
def FetchesFail (e : DbError) (used : List Used) : Prop :=
  ∀ f answer, (⟨.fetch f, answer⟩ : Used) ∈ used → answer = .error e

def FetchesSucceed (used : List Used) : Prop :=
  ∀ f answer, (⟨.fetch f, answer⟩ : Used) ∈ used → answer.isOk = true

def ClosesSucceed (used : List Used) : Prop := ∀ answer, (⟨.close, answer⟩ : Used) ∈ used → answer = .ok ()

namespace Cursor

-- A use of the cursor that is held on a client.
def perform : (u : Use) → Cursor × Client → Except DbError u.Answer × Cursor × Client
  | .fetch f, (c, client) => ((f.perform c).1, (f.perform c).2, client)
  | .count, (c, client) => ((c.count client).1, c, (c.count client).2)
  | .close, (c, client) =>
    let closed := c.close client.store
    (closed.1, closed.2.1, { client with store := closed.2.2 })

def useEach : List Use → Cursor × Client → List Used × Cursor × Client
  | [], held => ([], held)
  | u :: rest, held =>
    let used := perform u held
    let others := useEach rest used.2
    (⟨u, used.1⟩ :: others.1, others.2)

-- The store once the cursor has been dropped.
def dropped (held : Cursor × Client) : Store := (held.1.release held.2.store).2

-- What a cursor keeps on record of a fetch.
def failure {α : Type} : Except DbError α → Option DbError
  | .ok _ => none
  | .error e => some (.fetch e.message)

section

variable {α : Type} {decode : Decoder α} {c : Cursor} {stream : ResultStream} {e : DbError}

theorem eq_of_ready (hs : c.stream = some stream) (he : c.error = none) :
    c = { c with stream := some { stream with rest := stream.rest }, error := none } := by
  rw [← hs, ← he]

theorem fetchOne_of_ready (decode : Decoder α) (hs : c.stream = some stream) (he : c.error = none) :
    ∃ rest, (c.fetchOne decode).2 =
      { c with stream := some { stream with rest }, error := failure (c.fetchOne decode).1 } := by
  have hready : c.ready = .ok stream := by simp [ready, hs, he]
  have hnext : ∃ rest, stream.next.2 = { stream with rest } := by
    unfold ResultStream.next
    split
    · exact ⟨stream.rest, rfl⟩
    · next hclosed =>
        have hopen : stream.isClosed = false := by simpa using hclosed
        split
        · exact ⟨stream.rest, rfl⟩
        · next rest _ => exact ⟨rest, by rw [hopen]⟩
  obtain ⟨rest, hrest⟩ := hnext
  refine ⟨rest, ?_⟩
  simp only [fetchOne, hready]
  split
  · simp [hrest, failure, he]
  · simp [hrest, failure]

theorem readUpTo_of_ready {n : Nat} {before : List α} (hs : c.stream = some stream) (he : c.error = none) :
    ∃ rest, (readUpTo decode n before c).2 =
      { c with
        stream := some { stream with rest },
        error := failure (readUpTo decode n before c).1 } := by
  induction n generalizing before c stream with
  | zero => exact ⟨stream.rest, eq_of_ready hs he⟩
  | succ n ih =>
      unfold readUpTo
      obtain ⟨rest, hrest⟩ := fetchOne_of_ready decode hs he
      cases hfetch : c.fetchOne decode with
      | mk answer c₁ =>
          rw [hfetch] at hrest
          dsimp only at hrest
          subst hrest
          cases answer with
          | error e => exact ⟨rest, rfl⟩
          | ok next =>
              cases next with
              | none => exact ⟨rest, rfl⟩
              | some record => exact @ih _ { stream with rest } (before ++ [record]) rfl rfl

end

end Cursor

namespace Fetch

variable {c : Cursor} {stream : ResultStream} {e : DbError}

theorem perform_of_ready (f : Fetch) (hs : c.stream = some stream) (he : c.error = none) :
    ∃ rest, (f.perform c).2 =
      { c with stream := some { stream with rest }, error := Cursor.failure (f.perform c).1 } := by
  have hmap {α β : Type} (g : α → β) (r : Except DbError α) : Cursor.failure (r.map g) = Cursor.failure r := by
    cases r <;> rfl
  obtain ⟨Record, decode, limit⟩ := f
  cases limit with
  | none =>
      simp only [perform, hmap]
      exact Cursor.fetchOne_of_ready decode hs he
  | some limit =>
      exact Cursor.readUpTo_of_ready hs he

end Fetch

namespace Cursor

section

variable {c : Cursor} {u : Use} {held : Cursor × Client} {uses : List Use}

end

section

variable {held : Cursor × Client} {u : Use} {uses : List Use} {e reported : DbError}

-- Whether a failure is told by every fetch until the cursor is closed, and the one on
-- record by the closing; from then on the cursor is a closed one.
def Reports (reported recorded : DbError) (held : Cursor × Client) : Prop :=
  ∀ uses, NoClose uses →
    let used := useEach uses held
    let closed := perform .close used.2
    FetchesFail reported used.1 ∧ closed.1 = .error recorded ∧
      ∀ others, FetchesFail (.fetch "cursor is closed") (useEach others closed.2).1 ∧
        ClosesSucceed (useEach others closed.2).1

-- A cursor of which all fetches succeed stays as fresh as it was.
theorem Fresh.useEach (h : held.1.Fresh) (hn : NoClose uses) (hok : FetchesSucceed (useEach uses held).1) :
    (useEach uses held).2.1.Fresh := by
  induction uses generalizing held with
  | nil => exact h
  | cons u rest ih =>
      obtain ⟨hu, hrest⟩ := List.forall_mem_cons.mp hn
      refine ih ?_ hrest fun f answer hmem => hok f answer (List.mem_cons_of_mem _ hmem)
      obtain ⟨c, client⟩ := held
      cases u with
      | close => exact absurd rfl hu
      | count => exact h
      | fetch f =>
          obtain ⟨he, stream, hs, hopen⟩ := h
          obtain ⟨rest, hafter⟩ := f.perform_of_ready hs he
          have hanswer : (f.perform c).1.isOk = true := hok f _ List.mem_cons_self
          simp only [perform, hafter]
          refine ⟨?_, _, rfl, hopen⟩
          cases hresult : (f.perform c).1 with
          | ok records => rfl
          | error e => rw [hresult] at hanswer; cases hanswer

end

end Cursor

end DocStore
