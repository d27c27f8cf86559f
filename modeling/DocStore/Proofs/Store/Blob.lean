import DocStore.Proofs.OrderedMap
import DocStore.Proofs.Store.Effect
import DocStore.Proofs.Value.Equality
import Mathlib.Data.List.Find
import Mathlib.Data.List.Induction

namespace DocStore

-- What a command that succeeded made of the files of its bucket.
inductive BlobEffect where
  | wrote (file : Blob)
  | removed (id : Value)
  | emptied

namespace BlobEffect

variable {e : BlobEffect} {effects : List BlobEffect} {id other : Value}

-- Whether the effect decides what is found under an identifier.
def affects (e : BlobEffect) (id : Value) : Bool :=
  match e with
  | wrote file => id.same file.id
  | removed own => id.same own
  | emptied => true

def file? : BlobEffect → Option Blob
  | wrote file => some file
  | _ => none

def WellFormed : BlobEffect → Prop
  | wrote file => file.id.WellFormed
  | removed own => own.WellFormed
  | emptied => True

-- What the effect leaves of the files, and the file that it adds.
def apply (e : BlobEffect) (files : List Blob) : List Blob :=
  files.filter (fun file => !e.affects file.id) ++ e.file?.toList

-- The files that were written and that nothing later has affected, oldest first.
def standing : List BlobEffect → List Blob
  | [] => []
  | wrote file :: rest =>
    if rest.any (·.affects file.id) then standing rest else file :: standing rest
  | _ :: rest => standing rest

theorem standing_cons_of_file?_none (h : e.file? = none) : standing (e :: effects) = standing effects := by
  cases e with
  | wrote file => cases h
  | _ => rfl

theorem standing_concat (effects : List BlobEffect) (e : BlobEffect) :
    standing (effects ++ [e]) = e.apply (standing effects) := by
  induction effects with
  | nil => cases e <;> simp [standing, apply, file?]
  | cons first rest ih =>
      cases hfile : first.file? with
      | none =>
          rw [List.cons_append, standing_cons_of_file?_none hfile, ih, standing_cons_of_file?_none hfile]
      | some file =>
          obtain rfl : first = wrote file := by
            cases first <;> simp_all [file?]
          by_cases hrest : rest.any (·.affects file.id) = true
          · simp [standing, hrest, ih]
          · by_cases hlast : e.affects file.id = true
            · simp [standing, apply, hrest, hlast, ih]
            · simp [standing, apply, hrest, hlast, ih]

theorem wrote_of_mem_standing {file : Blob} (h : file ∈ standing effects) : wrote file ∈ effects := by
  induction effects with
  | nil => cases h
  | cons first rest ih =>
      cases first with
      | wrote own =>
          unfold standing at h
          split at h
          · exact List.mem_cons_of_mem _ (ih h)
          · rcases List.mem_cons.mp h with rfl | hrest
            · exact List.mem_cons_self
            · exact List.mem_cons_of_mem _ (ih hrest)
      | removed own => exact List.mem_cons_of_mem _ (ih h)
      | emptied => exact List.mem_cons_of_mem _ (ih h)

theorem wellFormed_of_mem_standing (hwf : ∀ e ∈ effects, e.WellFormed) {file : Blob}
    (h : file ∈ standing effects) : file.id.WellFormed :=
  hwf _ (wrote_of_mem_standing h)

-- A file is gone once another one is written under its identifier.
theorem pairwise_standing (hwf : ∀ e ∈ effects, e.WellFormed) :
    (standing effects).Pairwise fun file later =>
      file.id.same later.id = false ∧ later.id.same file.id = false := by
  induction effects with
  | nil => exact .nil
  | cons first rest ih =>
      obtain ⟨hfirst, hrest⟩ := List.forall_mem_cons.mp hwf
      cases first with
      | wrote file =>
          unfold standing
          split
          · exact ih hrest
          · next hkept =>
              refine List.pairwise_cons.mpr ⟨fun later hlater => ?_, ih hrest⟩
              have hwrote := wrote_of_mem_standing hlater
              have hdiffers : file.id.same later.id = false := by
                by_contra hsame
                have haffects : (wrote later).affects file.id = true := by simpa [affects] using hsame
                exact hkept (List.any_eq_true.mpr ⟨_, hwrote, haffects⟩)
              refine ⟨hdiffers, ?_⟩
              by_contra hsame
              have hback := Value.same_symm (hrest _ hwrote) hfirst (by simpa using hsame)
              rw [hdiffers] at hback
              cases hback
      | removed own => exact ih hrest
      | emptied => exact ih hrest

theorem affects_of_same (h : id.same other = true) (ha : e.affects other = true) : e.affects id = true := by
  cases e with
  | emptied => rfl
  | wrote file => exact Value.same_trans h ha
  | removed own => exact Value.same_trans h ha

-- The last effect on an identifier.
def lastAffecting (effects : List BlobEffect) (id : Value) : Option BlobEffect :=
  effects.reverse.find? (·.affects id)

theorem lastAffecting_concat (effects : List BlobEffect) (e : BlobEffect) (id : Value) :
    lastAffecting (effects ++ [e]) id = if e.affects id then some e else lastAffecting effects id := by
  unfold lastAffecting
  rw [List.reverse_append, List.reverse_singleton, List.singleton_append, List.find?_cons]
  cases e.affects id <;> rfl

-- The file found under an identifier is that of the last effect, if that wrote one.
theorem find?_standing (hid : id.WellFormed) (hwf : ∀ e ∈ effects, e.WellFormed) :
    (standing effects).find? (Blob.holds id) = (lastAffecting effects id).bind file? := by
  induction effects using List.reverseRecOn with
  | nil => rfl
  | append_singleton rest e ih =>
      have hrest : ∀ e ∈ rest, e.WellFormed := fun e he => hwf e (List.mem_append_left _ he)
      have he : e.WellFormed := hwf e (by simp)
      rw [standing_concat, lastAffecting_concat, apply, List.find?_append]
      by_cases haffects : e.affects id = true
      · -- whatever was found under the identifier before is gone
        have hgone : ((standing rest).filter fun file => !e.affects file.id).find? (Blob.holds id) = none := by
          rw [List.find?_eq_none]
          intro file hfile hholds
          have hkept : e.affects file.id = false := by simpa using (List.mem_filter.mp hfile).2
          rw [affects_of_same hholds haffects] at hkept
          cases hkept
        rw [hgone, if_pos haffects, Option.none_or, Option.bind_some]
        cases e with
        | wrote file =>
            have hholds : Blob.holds id file = true := Value.same_symm hid he haffects
            simp [file?, hholds]
        | _ => rfl
      · have hother : ∀ file ∈ standing rest, Blob.holds id file = true → e.affects file.id = false := by
          intro file hfile hholds
          by_contra hgone
          have hback := Value.same_symm (wellFormed_of_mem_standing hrest hfile) hid hholds
          exact haffects (affects_of_same hback (by simpa using hgone))
        have hkept : ((standing rest).filter fun file => !e.affects file.id).find? (Blob.holds id) =
            (standing rest).find? (Blob.holds id) := by
          rw [List.find?_filter]
          apply List.find?_congr
          intro file hfile
          by_cases hholds : Blob.holds id file = true
          · simp [hholds, hother file hfile hholds]
          · simp [hholds]
        have hnew : e.file?.toList.find? (Blob.holds id) = none := by
          cases e with
          | wrote file =>
              have hholds : ¬ Blob.holds id file = true := fun hholds =>
                haffects (Value.same_symm he hid hholds)
              simp [file?, hholds]
          | _ => rfl
        rw [hkept, hnew, Option.or_none, if_neg haffects, ih hrest]

end BlobEffect

namespace Store

variable {s : Store} {bucket : String} {id : Value}

theorem files_setFiles (s : Store) (bucket other : String) (kept : List Blob) :
    (s.setFiles bucket kept).files other = if bucket = other then kept else s.files other := by
  unfold files setFiles OrderedMap.getD
  rw [OrderedMap.get?_insert]
  split <;> rfl

-- What is left of the files of every bucket by an effect on those of one.
def filesAfter (s : Store) (bucket : String) (e : BlobEffect) (other : String) : List Blob :=
  if bucket = other then e.apply (s.files other) else s.files other

theorem apply_removed (id : Value) (files : List Blob) :
    (BlobEffect.removed id).apply files = files.filter fun file => !Blob.holds id file := by
  simp [BlobEffect.apply, BlobEffect.file?, BlobEffect.affects, Blob.holds]

-- Even a removal that fails does so by leaving what it would leave.
theorem files_deleteFile (s : Store) (bucket : String) (id : Value) (other : String) :
    (s.deleteFile bucket id).2.files other = s.filesAfter bucket (.removed id) other := by
  have hset : (s.deleteFile bucket id).2 =
      s.setFiles bucket ((s.files bucket).filter fun file => !Blob.holds id file) := by
    unfold deleteFile
    dsimp only
    split <;> rfl
  rw [hset, files_setFiles, filesAfter]
  by_cases hsame : bucket = other
  · rw [if_pos hsame, if_pos hsame, apply_removed, hsame]
  · rw [if_neg hsame, if_neg hsame]

theorem files_deleteFile_of_error {e : StoreError} (h : (s.deleteFile bucket id).1 = .error e)
    (other : String) :
    (s.deleteFile bucket id).2.files other = s.files other := by
  have hkept : ((s.files bucket).filter fun file => !Blob.holds id file) = s.files bucket := by
    unfold deleteFile at h
    dsimp only at h
    split at h
    · next hlength => exact List.filter_eq_self.mpr (List.length_filter_eq_length_iff.mp hlength)
    · cases h
  rw [files_deleteFile, filesAfter]
  split
  · next hsame => rw [apply_removed, ← hsame, hkept]
  · rfl

theorem distinct_deleteFile (hd : s.buckets.Distinct) (bucket : String) (id : Value) :
    (s.deleteFile bucket id).2.buckets.Distinct := by
  unfold deleteFile
  dsimp only
  split <;> exact hd.insert _ _

theorem files_dropBucket (hd : s.buckets.Distinct) (bucket other : String) :
    (s.dropBucket bucket).files other = s.filesAfter bucket .emptied other := by
  unfold filesAfter files dropBucket OrderedMap.getD
  by_cases hsame : bucket = other
  · rw [if_pos hsame, hsame, OrderedMap.get?_erase_self hd]
    simp [BlobEffect.apply, BlobEffect.affects, BlobEffect.file?]
  · rw [if_neg hsame, OrderedMap.get?_erase_of_ne _ hsame]

theorem distinct_dropBucket (hd : s.buckets.Distinct) (bucket : String) :
    (s.dropBucket bucket).buckets.Distinct :=
  hd.sublist ((OrderedMap.erase_sublist _ _).map _)

-- A file with an identifier that no file has is stored behind the others.
theorem upload_bytes {opened : Bucket} {given : Option Value} (filename : String) (metadata : Document)
    (data : List UInt8)
    (hnew : ∀ file ∈ s.files opened.name, file.id.same (given.getD (.objectId s.fresh)) = false) :
    ∃ after, s.upload opened given filename metadata (.bytes data) =
        (.ok (given.getD (.objectId s.fresh)), after) ∧
      (s.buckets.Distinct → after.buckets.Distinct) ∧
      ∀ other, after.files other = s.files other ++
        if opened.name = other then
          [⟨given.getD (.objectId s.fresh), filename, metadata, opened.chunkSize, data⟩]
        else [] := by
  have hnone : (s.files opened.name).any (Blob.holds (given.getD (.objectId s.fresh))) = false := by
    rw [List.any_eq_false]
    intro file hfile
    simp [Blob.holds, hnew file hfile]
  let counted : Store := { s with identifiers := s.identifiers + 1 }
  have hfiles (other : String) : counted.files other = s.files other := rfl
  refine ⟨counted.setFiles opened.name (s.files opened.name ++
    [⟨given.getD (.objectId s.fresh), filename, metadata, opened.chunkSize, data⟩]), ?_, ?_, ?_⟩
  · simp only [upload, ByteSource.read]
    change (if (s.files opened.name).any (Blob.holds (given.getD (.objectId s.fresh))) then _ else _) = _
    rw [hnone]
    rfl
  · exact fun hd => hd.insert _ _
  · intro other
    rw [files_setFiles]
    split
    · next hsame => rw [hsame]
    · rw [List.append_nil, hfiles]

-- Only blob commands change files.
theorem answer_buckets (s : Store) (session : Option SessionId) (c : Call) :
    (s.answer session c).2.buckets = s.buckets := by
  rcases answer_cases c with ⟨name, f, hw⟩ | ⟨name, hd⟩ | rfl | ⟨id, rfl⟩ | ⟨id, rfl⟩ | ⟨name, rfl⟩ |
    ⟨_, _, hsame⟩
  · rw [answer_of_write hw]
    unfold write
    split
    · dsimp only
      split
      · rw [publish_eq]
      · rfl
    · split
      · rfl
      · dsimp only
        split <;> rfl
  · rw [answer_of_drop hd]
    rfl
  · rfl
  · simp only [answer, commit]
    split
    · rfl
    · rw [publish_eq]
      rfl
  · simp only [answer, abort]
    split <;> rfl
  · rfl
  · rw [hsame]

theorem perform_buckets (s : Store) (session : Option SessionId) (c : Call) :
    (s.perform session c).2.buckets = s.buckets := by
  by_cases hf : s.failing = some c.name
  · rw [perform_of_failing hf]
  · rw [perform_of_ready hf]
    exact answer_buckets _ session c

end Store

end DocStore
