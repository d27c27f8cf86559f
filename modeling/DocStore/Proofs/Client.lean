import DocStore.Client

namespace DocStore

namespace ClientM

variable {α β : Type} {client after : Client}

theorem bind_of_ok {x : ClientM α} {a : α} (f : α → ClientM β) (hx : x client = (.ok a, after)) :
    (x >>= f) client = f a after := by
  simp only [bind, ExceptT.bind, ExceptT.mk, ExceptT.bindCont, StateT.bind, hx]

theorem bind_of_error {x : ClientM α} {e : DbError} (f : α → ClientM β)
    (hx : x client = (.error e, after)) : (x >>= f) client = (.error e, after) := by
  simp only [bind, ExceptT.bind, ExceptT.mk, ExceptT.bindCont, StateT.bind, hx]
  rfl

@[simp] theorem liftM_ok_bind (a : α) (f : α → ClientM β) :
    (liftM (Except.ok a : Except DbError α) >>= f) = f a := rfl

@[simp] theorem liftM_error_bind (e : DbError) (f : α → ClientM β) :
    (liftM (Except.error e : Except DbError α) >>= f) = throw e := rfl

theorem map_of_ok (f : α → β) {x : ClientM α} {a : α} (hx : x client = (.ok a, after)) :
    (f <$> x) client = (.ok (f a), after) := by
  rw [map_eq_pure_bind, bind_of_ok _ hx]
  rfl

theorem map_of_error (f : α → β) {x : ClientM α} {e : DbError} (hx : x client = (.error e, after)) :
    (f <$> x) client = (.error e, after) := by
  rw [map_eq_pure_bind, bind_of_error _ hx]

-- Making something of an answer leaves the client as the answer left it.
theorem map_snd (f : α → β) (x : ClientM α) (client : Client) : ((f <$> x) client).2 = (x client).2 := by
  cases hx : x client with
  | mk r after =>
      cases r with
      | ok a => rw [map_of_ok f hx]
      | error e => rw [map_of_error f hx]

theorem map_fst (f : α → β) (x : ClientM α) (client : Client) :
    ((f <$> x) client).1 = (x client).1.map f := by
  cases hx : x client with
  | mk r after =>
      cases r with
      | ok a =>
          rw [map_of_ok f hx]
          rfl
      | error e =>
          rw [map_of_error f hx]
          rfl

end ClientM

namespace Client

variable {α : Type} {activity : String} {f : Store → Except StoreError α × Store} {client : Client} {store : Store}

theorem onStore_of_ok {a : α} (h : f client.store = (.ok a, store)) :
    onStore activity f client = (.ok a, { client with store }) := by
  simp only [onStore, h]

theorem onStore_of_error {e : StoreError} (h : f client.store = (.error e, store)) :
    onStore activity f client = (.error (.store activity e), { client with store }) := by
  simp only [onStore, h]

end Client

namespace Scope

variable {scope : Scope} {activity : String} {c : Call} {client : Client}

theorem issue_noted :
    (scope.issue activity c client).2.noted = client.noted ++ [⟨c, c.isBound scope.session⟩] := by
  simp only [issue, Client.issue, Client.note]
  split <;> rfl

theorem issue_of_ok {answer : c.Answer} {store : Store}
    (h : client.store.perform scope.session c = (.ok answer, store)) :
    scope.issue activity c client =
      (.ok answer, { client.note c (c.isBound scope.session) with store }) := by
  have hnote : (client.note c (c.isBound scope.session)).store = client.store := rfl
  simp only [issue, Client.issue, hnote, h]

end Scope

end DocStore
