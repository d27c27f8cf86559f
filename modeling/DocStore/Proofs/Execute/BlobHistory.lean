import DocStore.Proofs.Execute.Blob

namespace DocStore

namespace Execute

-- What a query asks for besides the store that it is carried out on.
structure Request where
  scope : Scope
  clauses : List Clause
  params : Params

namespace Request

def run (q : Request) : ClientM ExecResult := Execute.run q.scope q.clauses q.params

def blob? (q : Request) : Option BlobRequest := blobRequest q.scope q.clauses

-- The bucket that a request changed, and how; none where it failed.
def effect? (q : Request) (client : Client) : Option (String × BlobEffect) :=
  q.blob?.bind fun r =>
    ((q.run client).1.toOption.bind (r.effect q.params client.store)).map fun e => (r.bucket.name, e)

def Sound (q : Request) (s : Store) : Prop := ∀ r, q.blob? = some r → r.Sound q.params s

variable {q : Request} {client : Client}

theorem run_eq_useBucket {r : BlobRequest} (hr : q.blob? = some r)
    (hready : client.store.failing ≠ some "bucket") :
    (q.run client).1 = (useBucket r q.params r.bucket (client.withBucket r.bucket)).1 ∧
      (q.run client).2.store = (useBucket r q.params r.bucket (client.withBucket r.bucket)).2.store := by
  obtain ⟨hresult, -, hstore⟩ := run_eq_action q.scope q.clauses q.params client
  rcases action_cases q.scope q.clauses q.params with ⟨hnone, -⟩ | ⟨own, hown, haction⟩
  · have hblob : q.blob? = none := hnone
    rw [hblob] at hr
    cases hr
  · have hblob : q.blob? = some own := hown
    rw [hblob] at hr
    cases hr
    rw [haction, openThenUse_of_ready hready] at hresult hstore
    exact ⟨hresult, hstore⟩

-- A request that opens no bucket, or fails to, changes none.
theorem run_buckets (h : q.blob? = none ∨ client.store.failing = some "bucket") :
    (q.run client).2.store.buckets = client.store.buckets ∧ q.effect? client = none := by
  obtain ⟨hresult, -, hstore⟩ := run_eq_action q.scope q.clauses q.params client
  unfold effect? run
  rw [hresult, hstore]
  rcases action_cases q.scope q.clauses q.params with ⟨hnone, hsingle⟩ | ⟨r, hr, haction⟩
  · have hblob : q.blob? = none := hnone
    rw [hblob]
    exact ⟨hsingle.keeps_buckets client, rfl⟩
  · have hblob : q.blob? = some r := hr
    have hfailing : client.store.failing = some "bucket" := h.resolve_left (by simp [hblob])
    obtain ⟨after, hopen, hbuckets⟩ := openThenUse_of_failing hfailing q.scope r q.params
    rw [haction, hopen]
    refine ⟨hbuckets, ?_⟩
    rw [hblob]
    rfl

theorem run_did (hd : client.store.buckets.Distinct) (hsound : q.Sound client.store) :
    (q.run client).2.store.buckets.Distinct ∧
      (∀ other, (q.run client).2.store.files other =
        match q.effect? client with
        | some (bucket, e) => client.store.filesAfter bucket e other
        | none => client.store.files other) ∧
      ∀ made ∈ q.effect? client, made.2.WellFormed := by
  by_cases hnothing : q.blob? = none ∨ client.store.failing = some "bucket"
  · obtain ⟨hbuckets, hnone⟩ := run_buckets hnothing
    rw [hnone, hbuckets]
    exact ⟨hd, Store.files_of_buckets hbuckets, nofun⟩
  · obtain ⟨hsome, hready⟩ := not_or.mp hnothing
    obtain ⟨r, hr⟩ := Option.ne_none_iff_exists'.mp hsome
    obtain ⟨hresult, hstore⟩ := run_eq_useBucket hr hready
    -- opening the bucket has not changed what an effect depends on
    have hopened : r.Sound q.params (client.withBucket r.bucket).store :=
      ⟨(hsound r hr).wellFormed, (hsound r hr).readable, (hsound r hr).fresh⟩
    have hstill : (client.withBucket r.bucket).store.buckets.Distinct := hd
    obtain ⟨result, after, huse, hdid, hwf⟩ := useBucket_did hstill hopened
    have heffect : r.effect q.params (client.withBucket r.bucket).store = r.effect q.params client.store := rfl
    rw [heffect] at hdid hwf
    rw [huse] at hresult hstore
    have hmade : q.effect? client =
        (result.toOption.bind (r.effect q.params client.store)).map fun e => (r.bucket.name, e) := by
      unfold effect?
      rw [hr, hresult]
      rfl
    rw [hmade, hstore]
    refine ⟨hdid.distinct, fun other => ?_, fun made hin => ?_⟩
    · rw [hdid.files]
      cases result.toOption.bind (r.effect q.params client.store) <;> rfl
    · obtain ⟨e, he, rfl⟩ := Option.map_eq_some_iff.mp hin
      exact hwf e he

-- Whatever becomes of a request, it concerns no bucket but its own.
theorem run_files_of_ne {bucket : String} (h : ∀ r, q.blob? = some r → r.bucket.name ≠ bucket) :
    (q.run client).2.store.files bucket = client.store.files bucket := by
  by_cases hnothing : q.blob? = none ∨ client.store.failing = some "bucket"
  · exact Store.files_of_buckets (run_buckets hnothing).1 bucket
  · obtain ⟨hsome, hready⟩ := not_or.mp hnothing
    obtain ⟨r, hr⟩ := Option.ne_none_iff_exists'.mp hsome
    rw [(run_eq_useBucket hr hready).2]
    exact keeps_files_useBucket (h r hr) (client.withBucket r.bucket)

-- What a read of a bucket is to find, into a sink that takes everything.
def Reads (q : Request) (bucket : String) (o : BlobOptions) : Prop :=
  (∃ chunkSize, q.blob? = some ⟨⟨bucket, chunkSize⟩, .blobRead, o⟩) ∧ q.params.output = some .collect

def unopened (bucket : String) (o : BlobOptions) (missing : StoreError) : DbError :=
  .store ("unable to open blob " ++ (bucket ++ "-" ++ o.nameOrId.getD "")) missing

theorem run_reads {bucket : String} {o : BlobOptions} (h : q.Reads bucket o)
    (hready : client.store.failing ≠ some "bucket") :
    ∃ opened : Bucket, opened.name = bucket ∧ (q.run client).1 =
      (Blob.read opened o (some .collect) (client.withBucket opened)).1.map .copied := by
  obtain ⟨⟨chunkSize, hblob⟩, hout⟩ := h
  refine ⟨⟨bucket, chunkSize⟩, rfl, ?_⟩
  rw [(run_eq_useBucket hblob hready).1]
  exact useBucket_read hout

theorem run_read_id {bucket : String} {o : BlobOptions} {id : Value} (h : q.Reads bucket o)
    (hready : client.store.failing ≠ some "bucket") (hid : o.id = some id) :
    (q.run client).1 =
      match (client.store.files bucket).find? (Blob.holds id) with
      | some file => .ok (.copied ⟨file.data, file.data.length⟩)
      | none => .error (unopened bucket o (.noFileWithId id)) := by
  obtain ⟨opened, rfl, hrun⟩ := run_reads h hready
  have hopen : Blob.openFor (client.withBucket opened).store opened o =
      client.store.openById opened.name id := by
    simp only [Blob.openFor, hid]
    rfl
  have htarget : (o.id.isNone && o.name.isEmpty) = false := by simp [hid]
  rw [hrun]
  unfold Store.openById at hopen
  split
  · next file hfile =>
      rw [hfile] at hopen
      rw [Blob.read_of_found htarget hopen]
      rfl
  · next hnone =>
      rw [hnone] at hopen
      rw [Blob.read_of_missing htarget hopen]
      rfl

theorem run_read_name {bucket : String} {o : BlobOptions} (h : q.Reads bucket o)
    (hready : client.store.failing ≠ some "bucket") (hid : o.id = none) (hname : o.name ≠ "") :
    (q.run client).1 =
      match ((client.store.files bucket).filter (·.filename == o.name)).getLast? with
      | some file => .ok (.copied ⟨file.data, file.data.length⟩)
      | none => .error (unopened bucket o (.noFileNamed o.name)) := by
  obtain ⟨opened, rfl, hrun⟩ := run_reads h hready
  have hopen : Blob.openFor (client.withBucket opened).store opened o =
      client.store.openByName opened.name o.name := by
    simp only [Blob.openFor, hid]
    rfl
  have htarget : (o.id.isNone && o.name.isEmpty) = false := by simp [hname]
  have hlast : ((client.store.files opened.name).filter (·.filename == o.name)).getLast? =
      (client.store.files opened.name).reverse.find? (·.filename == o.name) := by
    rw [List.getLast?_eq_head?_reverse, ← List.filter_reverse, List.head?_filter]
  rw [hrun, hlast]
  unfold Store.openByName at hopen
  split
  · next file hfile =>
      rw [hfile] at hopen
      rw [Blob.read_of_found htarget hopen]
      rfl
  · next hnone =>
      rw [hnone] at hopen
      rw [Blob.read_of_missing htarget hopen]
      rfl

end Request

-- The client after requests, one after the other.
def runAll : Client → List Request → Client
  | client, [] => client
  | client, q :: rest => runAll (q.run client).2 rest

def SoundRun : Client → List Request → Prop
  | _, [] => True
  | client, q :: rest => q.Sound client.store ∧ SoundRun (q.run client).2 rest

-- What was done to a bucket by the requests that succeeded.
def history (bucket : String) : Client → List Request → List BlobEffect
  | _, [] => []
  | client, q :: rest =>
    ((q.effect? client).toList.filter (·.1 == bucket)).map (·.2) ++ history bucket (q.run client).2 rest

open BlobEffect

-- The files of a bucket are what the history of the bucket has left of them, at every point of a run.
theorem runAll_files {bucket : String} {client : Client} {qs : List Request} (before : List BlobEffect)
    (hd : client.store.buckets.Distinct) (hsound : SoundRun client qs)
    (hwf : ∀ e ∈ before, e.WellFormed) (hfiles : client.store.files bucket = standing before) :
    (∀ e ∈ before ++ history bucket client qs, e.WellFormed) ∧
      (runAll client qs).store.files bucket = standing (before ++ history bucket client qs) := by
  induction qs generalizing client before with
  | nil => simpa [history, runAll] using ⟨hwf, hfiles⟩
  | cons q rest ih =>
      obtain ⟨hq, hrest⟩ := hsound
      obtain ⟨hdistinct, hstep, hmade⟩ := Request.run_did hd hq
      rw [history, ← List.append_assoc]
      apply ih _ hdistinct hrest
      · intro e he
        rcases List.mem_append.mp he with hold | hnew
        · exact hwf e hold
        · obtain ⟨made, hin, rfl⟩ := List.mem_map.mp hnew
          exact hmade made (Option.mem_toList.mp (List.mem_filter.mp hin).1)
      · rw [hstep]
        cases q.effect? client with
        | none => simpa using hfiles
        | some made =>
            obtain ⟨own, e⟩ := made
            by_cases hown : own = bucket
            · simp [hown, Store.filesAfter, hfiles, standing_concat]
            · simp [hown, Store.filesAfter, hfiles]

-- Blob storage as a map with names. From a client without buckets, and along requests of any kind
-- on any buckets: no two files of a bucket have the same identifier; what is read under an
-- identifier is what the last effect on it wrote, and nothing if that did not write; what is read by
-- name is what was written last of all that still stands under that name; a read reports the number
-- of the bytes; and a request changes no bucket but its own.
theorem blobs_along_run {client : Client} {qs : List Request} (hstart : client.store.buckets = [])
    (hsound : SoundRun client qs) (bucket : String) :
    (runAll client qs).store.files bucket = standing (history bucket client qs) ∧
    ((runAll client qs).store.files bucket).Pairwise (fun file later =>
      file.id.same later.id = false ∧ later.id.same file.id = false) ∧
    (∀ (q : Request) (o : BlobOptions) (id : Value), q.Reads bucket o →
      (runAll client qs).store.failing ≠ some "bucket" → o.id = some id → id.WellFormed →
        (q.run (runAll client qs)).1 =
          match lastAffecting (history bucket client qs) id with
          | some (.wrote file) => .ok (.copied ⟨file.data, file.data.length⟩)
          | _ => .error (Request.unopened bucket o (.noFileWithId id))) ∧
    (∀ (q : Request) (o : BlobOptions), q.Reads bucket o →
      (runAll client qs).store.failing ≠ some "bucket" → o.id = none → o.name ≠ "" →
        (q.run (runAll client qs)).1 =
          match ((standing (history bucket client qs)).filter (·.filename == o.name)).getLast? with
          | some file => .ok (.copied ⟨file.data, file.data.length⟩)
          | none => .error (Request.unopened bucket o (.noFileNamed o.name))) ∧
    ∀ q : Request, (∀ r, q.blob? = some r → r.bucket.name ≠ bucket) →
      (q.run (runAll client qs)).2.store.files bucket = (runAll client qs).store.files bucket := by
  have hd : client.store.buckets.Distinct := by
    rw [hstart]
    exact OrderedMap.distinct_nil
  have hempty : client.store.files bucket = standing [] := by
    unfold Store.files
    rw [hstart]
    rfl
  obtain ⟨hwf, hfiles⟩ := runAll_files [] hd hsound (fun e he => nomatch he) hempty
  rw [List.nil_append] at hwf hfiles
  refine ⟨hfiles, ?_, fun q o id hreads hready hid hidwf => ?_,
    fun q o hreads hready hid hname => ?_, fun q hother => ?_⟩
  · rw [hfiles]
    exact pairwise_standing hwf
  · rw [Request.run_read_id hreads hready hid, hfiles, find?_standing hidwf hwf]
    cases hlast : lastAffecting (history bucket client qs) id with
    | none => rfl
    | some e => cases e <;> rfl
  · rw [Request.run_read_name hreads hready hid hname, hfiles]
  · exact Request.run_files_of_ne hother

-- Requests that keep a few files in two buckets.
def putFile (bucket : String) (fields : Document) (data : List UInt8) : Request :=
  ⟨{ config := {} }, [.table bucket, .command ⟨.blobWrite, .document fields⟩],
    { source := some (.bytes data) }⟩

def takeFile (bucket : String) (fields : Document) : Request :=
  ⟨{ config := {} }, [.table bucket, .command ⟨.blobRead, .document fields⟩], { output := some .collect }⟩

def removeFile (bucket : String) (id : Value) : Request :=
  ⟨{ config := {} }, [.table bucket, .command ⟨.blobRemove, .document [("id", id)]⟩], {}⟩

-- A file written twice, one without an identifier of its own, one that is removed, and one elsewhere.
def keptFiles : List Request :=
  [putFile "notes" [("id", .string "a"), ("name", .string "draft")] [1],
    putFile "notes" [("name", .string "draft")] [2],
    putFile "notes" [("id", .string "a"), ("name", .string "draft")] [3, 4],
    putFile "photos" [("id", .string "a")] [5],
    putFile "notes" [("id", .int32 7), ("name", .string "draft")] [6],
    removeFile "notes" (.int32 7)]

theorem Request.sound_of_given {q : Request} {r : BlobRequest} (id : Value) (hr : q.blob? = some r)
    (hid : r.options.id = some id) (hwf : id.WellFormed) (hsource : q.params.source ≠ some .broken)
    (s : Store) : q.Sound s := by
  intro own hown
  rw [hr] at hown
  cases hown
  refine ⟨fun given hgiven => ?_, fun _ => hsource, fun _ hnone => ?_⟩
  · rw [hid] at hgiven
    cases hgiven
    exact hwf
  · rw [hid] at hnone
    cases hnone

def copied? : Except DbError ExecResult → Option CopyReport
  | .ok (.copied report) => some report
  | _ => none

theorem blobs_along_run_keptFiles :
    SoundRun {} keptFiles ∧
    copied? ((takeFile "notes" [("id", .string "a")]).run (runAll {} keptFiles)).1 = some ⟨[3, 4], 2⟩ ∧
    copied? ((takeFile "notes" [("id", .int32 7)]).run (runAll {} keptFiles)).1 = none ∧
    copied? ((takeFile "notes" [("name", .string "draft")]).run (runAll {} keptFiles)).1 = some ⟨[3, 4], 2⟩ ∧
    copied? ((takeFile "photos" [("id", .string "a")]).run (runAll {} keptFiles)).1 = some ⟨[5], 1⟩ := by
  have hgenerated : (putFile "notes" [("name", .string "draft")] [2]).Sound
      (runAll {} (keptFiles.take 1)).store := by
    intro r hr
    cases (Option.some.inj hr : (⟨⟨"notes", 1024⟩, .blobWrite, ⟨none, "draft", [], none⟩⟩ : BlobRequest) = r)
    exact ⟨nofun, nofun, fun _ _ => by decide +kernel⟩
  have hsound : SoundRun {} keptFiles := by
    refine ⟨?_, hgenerated, ?_, ?_, ?_, ?_, trivial⟩
    · exact Request.sound_of_given (.string "a") rfl rfl trivial (by decide) _
    · exact Request.sound_of_given (.string "a") rfl rfl trivial (by decide) _
    · exact Request.sound_of_given (.string "a") rfl rfl trivial (by decide) _
    · exact Request.sound_of_given (.int32 7) rfl rfl trivial (by decide) _
    · exact Request.sound_of_given (.int32 7) rfl rfl trivial (by decide) _
  have hready : (runAll {} keptFiles).store.failing ≠ some "bucket" := by decide +kernel
  have hnotes := blobs_along_run rfl hsound "notes"
  have hphotos := blobs_along_run rfl hsound "photos"
  refine ⟨hsound, ?_, ?_, ?_, ?_⟩
  · rw [hnotes.2.2.1 _ _ (.string "a") ⟨⟨1024, rfl⟩, rfl⟩ hready rfl trivial]
    decide +kernel
  · rw [hnotes.2.2.1 _ _ (.int32 7) ⟨⟨1024, rfl⟩, rfl⟩ hready rfl trivial]
    decide +kernel
  · rw [hnotes.2.2.2.1 _ _ ⟨⟨1024, rfl⟩, rfl⟩ hready rfl (by decide)]
    decide +kernel
  · rw [hphotos.2.2.1 _ _ (.string "a") ⟨⟨1024, rfl⟩, rfl⟩ hready rfl trivial]
    decide +kernel

end Execute

end DocStore
