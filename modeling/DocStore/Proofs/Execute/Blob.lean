import DocStore.Proofs.Execute.Call
import DocStore.Proofs.Store.Blob

namespace DocStore

namespace ClientM

variable {α β γ : Type} {look : Store → γ}

-- Whether what is looked at in the store stays as it is.
def Keeps (look : Store → γ) (x : ClientM α) : Prop :=
  ∀ client, look (x client).2.store = look client.store

theorem keeps_throw (look : Store → γ) (e : DbError) : Keeps look (throw e : ClientM α) := fun _ => rfl

theorem Keeps.bind {x : ClientM α} {f : α → ClientM β} (hx : Keeps look x)
    (hf : ∀ a, Keeps look (f a)) : Keeps look (x >>= f) := by
  intro client
  cases hfirst : x client with
  | mk r after =>
      have hafter : look after.store = look client.store := by
        have hsame := hx client
        rwa [hfirst] at hsame
      cases r with
      | ok a => rw [bind_of_ok f hfirst, hf a after, hafter]
      | error e => rw [bind_of_error f hfirst, hafter]

theorem Keeps.map {x : ClientM α} (f : α → β) (hx : Keeps look x) : Keeps look (f <$> x) := by
  intro client
  rw [map_snd]
  exact hx client

theorem keeps_onStore (activity : String) {f : Store → Except StoreError α × Store}
    (h : ∀ s, look (f s).2 = look s) : Keeps look (Client.onStore activity f) := by
  intro client
  have hsame := h client.store
  cases hf : f client.store with
  | mk r store =>
      rw [hf] at hsame
      cases r with
      | ok a => rw [Client.onStore_of_ok hf, hsame]
      | error e => rw [Client.onStore_of_error hf, hsame]

theorem keeps_buckets_issue (session : Option SessionId) (activity : String) (c : Call) :
    Keeps Store.buckets (Client.issue session activity c) := by
  intro client
  have hperform := Store.perform_buckets client.store session c
  simp only [Client.issue, Client.note]
  split <;> simp_all

-- Only blob commands change files.
theorem Single.keeps_buckets {x : ClientM α} (hx : Single x) : Keeps Store.buckets x := by
  cases hx with
  | refuse e => exact keeps_throw _ e
  | report session activity c f => exact (keeps_buckets_issue session activity c).map f

theorem Keeps.files {x : ClientM α} (hx : Keeps Store.buckets x) (bucket : String) :
    Keeps (·.files bucket) x := by
  intro client
  have hsame := hx client
  simp only [Store.files, hsame]

end ClientM

theorem Store.files_of_buckets {s t : Store} (h : s.buckets = t.buckets) (bucket : String) :
    s.files bucket = t.files bucket := by
  unfold files
  rw [h]

open ClientM

namespace Blob

variable {bucket : Bucket} {other : String}

theorem keeps_files_write (h : bucket.name ≠ other) (o : BlobOptions) (source : Option ByteSource) :
    Keeps (·.files other) (write bucket o source) := by
  unfold write
  cases source with
  | none => exact keeps_throw _ _
  | some source =>
      have hforget : Keeps (·.files other) (forget bucket o.id) := by
        intro client
        unfold forget
        split
        · rfl
        · exact (Store.files_deleteFile _ _ _ other).trans (if_neg h)
      refine hforget.bind fun _ => keeps_onStore _ fun s => ?_
      unfold Store.upload
      dsimp only
      split
      · rfl
      · split <;> exact (Store.files_setFiles _ _ other _).trans (if_neg h)

theorem keeps_files_remove (h : bucket.name ≠ other) (o : BlobOptions) :
    Keeps (·.files other) (remove bucket o) := by
  unfold remove
  cases removalTarget o with
  | error e => exact keeps_throw _ e
  | ok id =>
      rw [ClientM.liftM_ok_bind]
      refine keeps_onStore _ fun s => ?_
      exact (Store.files_deleteFile s _ id other).trans (if_neg h)

theorem keeps_files_truncate (h : bucket.name ≠ other) : Keeps (·.files other) (truncate bucket) := by
  refine keeps_onStore _ fun s => ?_
  unfold Store.files Store.dropBucket OrderedMap.getD
  rw [OrderedMap.get?_erase_of_ne _ h]

theorem keeps_buckets_read (bucket : Bucket) (o : BlobOptions) (output : Option ByteSink) :
    Keeps Store.buckets (read bucket o output) := by
  unfold read
  cases output with
  | none => exact keeps_throw _ _
  | some sink =>
      dsimp only
      split
      · exact keeps_throw _ _
      · refine (keeps_onStore _ fun _ => rfl).bind fun download => keeps_onStore _ fun s => ?_
        unfold copy Download.close
        dsimp only
        split <;> rfl

-- What became of the files of all buckets by an effect on one, or by none.
structure Did (client : Client) (bucket : String) (e : Option BlobEffect) (after : Client) : Prop where
  distinct : after.store.buckets.Distinct
  files : ∀ other, after.store.files other =
    match e with
    | some e => client.store.filesAfter bucket e other
    | none => client.store.files other

section

variable {o : BlobOptions} {client : Client}

theorem did_nothing {name : String} (hd : client.store.buckets.Distinct) : Did client name none client :=
  ⟨hd, fun _ => rfl⟩

-- What is under the identifier that is about to be written, if one was given, is dropped.
theorem forget_did (bucket : Bucket) (id : Option Value) (hd : client.store.buckets.Distinct) :
    ∃ after, forget bucket id client = (.ok (), after) ∧
      after.store.identifiers = client.store.identifiers ∧
      Did client bucket.name (id.map .removed) after := by
  cases id with
  | none => exact ⟨client, rfl, rfl, did_nothing hd⟩
  | some id =>
      refine ⟨_, rfl, ?_, Store.distinct_deleteFile hd _ _, Store.files_deleteFile _ _ _⟩
      unfold Store.deleteFile
      dsimp only
      split <;> rfl

-- The file that a write stores, under the identifier that it is given.
def fileOf (bucket : Bucket) (o : BlobOptions) (s : Store) (id : Value) (data : List UInt8) : Blob :=
  ⟨id, o.nameOrId.getD (inventedName s.identifiers), o.metadata, bucket.chunkSize, data⟩

-- A write of what can be read succeeds and takes the place of what was under its identifier.
theorem write_did (data : List UInt8) (hd : client.store.buckets.Distinct)
    (hfresh : o.id = none →
      ∀ file ∈ client.store.files bucket.name, file.id.same (.objectId client.store.fresh) = false) :
    ∃ id after, write bucket o (some (.bytes data)) client = (.ok id, after) ∧
      id = o.id.getD (.objectId client.store.fresh) ∧
      Did client bucket.name (some (.wrote (fileOf bucket o client.store id data))) after := by
  obtain ⟨between, hforget, hserial, hdistinct, hfiles⟩ := forget_did bucket o.id hd
  have hsame : between.store.fresh = client.store.fresh := by
    unfold Store.fresh
    rw [hserial]
  let id := o.id.getD (.objectId client.store.fresh)
  -- what is left by then is what is not under the identifier
  have hkept : between.store.files bucket.name =
      (client.store.files bucket.name).filter fun file => !file.id.same id := by
    rw [hfiles]
    cases hid : o.id with
    | none =>
        refine (List.filter_eq_self.mpr fun file hfile => ?_).symm
        simp [id, hid, hfresh hid file hfile]
    | some given =>
        simp [Store.filesAfter, Store.apply_removed, Blob.holds, id, hid]
  have hnew : ∀ file ∈ between.store.files bucket.name,
      file.id.same (o.id.getD (.objectId between.store.fresh)) = false := by
    intro file hfile
    rw [hkept] at hfile
    rw [hsame]
    simpa using (List.mem_filter.mp hfile).2
  obtain ⟨stored, hupload, hkeeps, hstored⟩ := Store.upload_bytes
    (o.nameOrId.getD (inventedName between.store.identifiers)) o.metadata data hnew
  rw [hsame] at hupload hstored
  refine ⟨id, { between with store := stored }, ?_, rfl, hkeeps hdistinct, fun other => ?_⟩
  · unfold write
    dsimp only
    rw [ClientM.bind_of_ok _ hforget]
    exact Client.onStore_of_ok hupload
  · rw [hstored]
    dsimp only
    rw [Store.filesAfter]
    by_cases hother : bucket.name = other
    · rw [if_pos hother, if_pos hother, ← hother, hkept, hserial]
      rfl
    · have hbetween : between.store.files other = client.store.files other := by
        rw [hfiles]
        split
        · exact if_neg hother
        · rfl
      rw [if_neg hother, if_neg hother, hbetween, List.append_nil]

-- A removal succeeds and takes the file away, or fails and takes nothing.
theorem remove_did (bucket : Bucket) (o : BlobOptions) (hd : client.store.buckets.Distinct) :
    ∃ r after, remove bucket o client = (r, after) ∧
      Did client bucket.name (r.toOption.bind fun _ => o.id.map .removed) after := by
  unfold remove
  cases htarget : removalTarget o with
  | error e => exact ⟨.error e, client, rfl, did_nothing hd⟩
  | ok id =>
      have hid : o.id = some id := by
        unfold removalTarget at htarget
        split at htarget
        · cases htarget
        · split at htarget <;> cases htarget
          assumption
        · cases htarget
          assumption
      rw [ClientM.liftM_ok_bind, hid]
      have hdistinct := Store.distinct_deleteFile hd bucket.name id
      cases hdelete : client.store.deleteFile bucket.name id with
      | mk r store =>
          rw [hdelete] at hdistinct
          cases r with
          | ok done =>
              refine ⟨_, _, Client.onStore_of_ok hdelete, hdistinct, fun other => ?_⟩
              have hfiles := Store.files_deleteFile client.store bucket.name id other
              rwa [hdelete] at hfiles
          | error e =>
              refine ⟨_, _, Client.onStore_of_error hdelete, hdistinct, fun other => ?_⟩
              have hfiles := Store.files_deleteFile_of_error (congrArg Prod.fst hdelete) other
              rwa [hdelete] at hfiles

theorem truncate_did (bucket : Bucket) (hd : client.store.buckets.Distinct) :
    ∃ after, truncate bucket client = (.ok (), after) ∧ Did client bucket.name (some .emptied) after :=
  ⟨_, rfl, Store.distinct_dropBucket hd _, Store.files_dropBucket hd _⟩

theorem read_did (bucket : Bucket) (o : BlobOptions) (output : Option ByteSink)
    (hd : client.store.buckets.Distinct) : Did client bucket.name none (read bucket o output client).2 := by
  have hkeeps := keeps_buckets_read bucket o output
  refine ⟨?_, fun other => hkeeps.files other client⟩
  rw [hkeeps client]
  exact hd

-- A copy that is not refused takes all that is left, and counts every byte of it once.
theorem copyPieces_collect {d : Download} {report : CopyReport} {fuel : Nat} (hopen : d.isClosed = false)
    (hfuel : d.rest.length < fuel) :
    d.copyPieces .collect fuel report =
      (.ok ⟨report.bytes ++ d.rest, report.count + d.rest.length⟩, { d with rest := [] }) := by
  induction fuel generalizing d report with
  | zero => omega
  | succ fuel ih =>
      obtain ⟨rest, isClosed⟩ := d
      subst hopen
      have hread : Download.read ⟨rest, false⟩ Download.pieceSize =
          (.ok (rest.take Download.pieceSize), ⟨rest.drop Download.pieceSize, false⟩) := rfl
      rw [Download.copyPieces, hread]
      cases rest with
      | nil => simp
      | cons byte rest =>
          have hpiece : ((byte :: rest).take Download.pieceSize).isEmpty = false := rfl
          have hless : ((byte :: rest).drop Download.pieceSize).length < fuel := by
            simp only [List.length_drop, Download.pieceSize, List.length_cons] at hfuel ⊢
            omega
          simp only [hpiece, Bool.false_eq_true, if_false]
          rw [ih rfl hless]
          -- the piece and what is behind it are all that was left
          have hlength := congrArg List.length (List.take_append_drop Download.pieceSize (byte :: rest))
          rw [List.length_append] at hlength
          rw [List.append_assoc, List.take_append_drop, Nat.add_assoc, hlength]

-- What is found is read to its end.
theorem read_of_found {data : List UInt8} (htarget : (o.id.isNone && o.name.isEmpty) = false)
    (hopen : openFor client.store bucket o = .ok { rest := data }) :
    (read bucket o (some .collect) client).1 = .ok ⟨data, data.length⟩ := by
  have hopens (activity : String) :
      Client.onStore activity (fun s => (openFor s bucket o, s)) client = (.ok { rest := data }, client) :=
    Client.onStore_of_ok (congrArg (·, client.store) hopen)
  have hcopies (activity : String) :
      (Client.onStore activity (copy { rest := data } .collect) client).1 = .ok ⟨data, data.length⟩ := by
    have hcopy : (copy { rest := data } .collect client.store).1 = .ok ⟨data, data.length⟩ := by
      simp [copy, Download.copyTo, copyPieces_collect (d := { rest := data }) rfl (Nat.lt_succ_self _)]
    exact congrArg Prod.fst (Client.onStore_of_ok (Prod.ext hcopy rfl))
  unfold read
  simp only [htarget, Bool.false_eq_true, if_false]
  rw [ClientM.bind_of_ok _ (hopens _)]
  exact hcopies _

theorem read_of_missing {missing : StoreError} (htarget : (o.id.isNone && o.name.isEmpty) = false)
    (hopen : openFor client.store bucket o = .error missing) :
    (read bucket o (some .collect) client).1 =
      .error (.store ("unable to open blob " ++ (bucket.name ++ "-" ++ o.nameOrId.getD "")) missing) := by
  have hfails (activity : String) :
      Client.onStore activity (fun s => (openFor s bucket o, s)) client =
        (.error (.store activity missing), client) :=
    Client.onStore_of_error (congrArg (·, client.store) hopen)
  unfold read
  simp only [htarget, Bool.false_eq_true, if_false]
  rw [ClientM.bind_of_error _ (hfails _)]

end

end Blob

namespace Execute

-- What a blob command did to its bucket, told from what it asked and from its answer.
def BlobRequest.effect (r : BlobRequest) (params : Params) (s : Store) (result : ExecResult) :
    Option BlobEffect :=
  match r.name, params.source, result with
  | .blobWrite, some (.bytes data), .stored id => some (.wrote (Blob.fileOf r.bucket r.options s id data))
  | .blobRemove, _, _ => r.options.id.map .removed
  | .blobTruncate, _, _ => some .emptied
  | _, _, _ => none

-- The source can be read, and what is generated as an identifier is not in use.
structure BlobRequest.Sound (r : BlobRequest) (params : Params) (s : Store) : Prop where
  wellFormed : ∀ id ∈ r.options.id, id.WellFormed
  readable : r.name = .blobWrite → params.source ≠ some .broken
  fresh : r.name = .blobWrite → r.options.id = none →
    ∀ file ∈ s.files r.bucket.name, file.id.same (.objectId s.fresh) = false

section

variable {r : BlobRequest} {params : Params} {client : Client}

theorem keeps_files_useBucket {other : String} (h : r.bucket.name ≠ other) :
    Keeps (·.files other) (useBucket r params r.bucket) := by
  unfold useBucket
  split
  · exact (Blob.keeps_files_write h _ _).map _
  · exact ((Blob.keeps_buckets_read _ _ _).files other).map _
  · exact (Blob.keeps_files_remove h _).map _
  · exact (Blob.keeps_files_truncate h).map _
  · exact keeps_throw _ _

-- The effect of a blob command on the files, once its bucket is open.
theorem useBucket_did (hd : client.store.buckets.Distinct) (hsound : r.Sound params client.store) :
    ∃ result after, useBucket r params r.bucket client = (result, after) ∧
      Blob.Did client r.bucket.name (result.toOption.bind (r.effect params client.store)) after ∧
      ∀ e ∈ result.toOption.bind (r.effect params client.store), e.WellFormed := by
  obtain ⟨bucket, name, o⟩ := r
  obtain ⟨hwf, hreadable, hfresh⟩ := hsound
  unfold useBucket BlobRequest.effect
  dsimp only at hwf hreadable hfresh ⊢
  cases name with
  | blobWrite =>
      cases hsource : params.source with
      | none => exact ⟨.error _, client, rfl, Blob.did_nothing hd, fun _ he => by cases he⟩
      | some source =>
          cases source with
          | broken => exact absurd hsource (hreadable rfl)
          | bytes data =>
              obtain ⟨id, after, hwrite, hid, hdid⟩ := Blob.write_did data hd (hfresh rfl)
              refine ⟨_, after, ClientM.map_of_ok _ hwrite, hdid, fun e he => ?_⟩
              have hgiven : id.WellFormed := by
                cases ho : o.id with
                | none => simp [hid, ho, Value.WellFormed]
                | some given =>
                    rw [hid, ho]
                    exact hwf given ho
              cases he
              exact hgiven
  | blobRead =>
      have hdid := Blob.read_did bucket o params.output hd
      cases hread : Blob.read bucket o params.output client with
      | mk r after =>
          rw [hread] at hdid
          cases r with
          | ok bytes => exact ⟨_, after, ClientM.map_of_ok _ hread, hdid, fun _ he => by cases he⟩
          | error e => exact ⟨_, after, ClientM.map_of_error _ hread, hdid, fun _ he => by cases he⟩
  | blobRemove =>
      obtain ⟨r, after, hremove, hdid⟩ := Blob.remove_did bucket o hd
      cases r with
      | ok done =>
          refine ⟨_, after, ClientM.map_of_ok _ hremove, hdid, fun e he => ?_⟩
          obtain ⟨id, hid, rfl⟩ := Option.map_eq_some_iff.mp he
          exact hwf id hid
      | error e => exact ⟨_, after, ClientM.map_of_error _ hremove, hdid, fun _ he => by cases he⟩
  | blobTruncate =>
      obtain ⟨after, htruncate, hdid⟩ := Blob.truncate_did bucket hd
      refine ⟨_, after, ClientM.map_of_ok _ htruncate, hdid, fun e he => ?_⟩
      cases he
      trivial
  | _ => exact ⟨.error _, client, rfl, Blob.did_nothing hd, fun _ he => by cases he⟩

theorem useBucket_read {o : BlobOptions} {bucket : Bucket} (hout : params.output = some .collect) :
    (useBucket ⟨bucket, .blobRead, o⟩ params bucket client).1 =
      (Blob.read bucket o (some .collect) client).1.map .copied := by
  unfold useBucket
  dsimp only
  rw [hout]
  cases hread : Blob.read bucket o (some .collect) client with
  | mk r after =>
      cases r with
      | ok bytes => rw [ClientM.map_of_ok _ hread]; rfl
      | error e => rw [ClientM.map_of_error _ hread]; rfl

end

end Execute

end DocStore
