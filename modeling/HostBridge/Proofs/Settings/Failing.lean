import HostBridge.Proofs.Settings.Following

namespace HostBridge

namespace StoredFile

/-- Whether a file can be read: there is none, or its bytes are a text. -/
def IsReadable : StoredFile → Prop
  | .missing => True
  | .content bytes => bytes.IsValidUTF8
  | .unreachable _ | .directory => False

variable {file : StoredFile}

theorem read_of_isReadable (h : file.IsReadable) : ∃ text?, file.read = .ok text? := by
  cases file with
  | missing => exact ⟨none, rfl⟩
  | content bytes =>
      have htext : String.fromUTF8? bytes = some ⟨bytes, h⟩ := dif_pos h
      exact ⟨some ⟨bytes, h⟩, by rw [read, htext]⟩
  | unreachable | directory => exact h.elim

theorem read_of_not_isReadable (h : ¬file.IsReadable) :
    ∃ reason, file.read = .error (.io reason) := by
  cases file with
  | missing => exact absurd trivial h
  | content bytes =>
      have htext : String.fromUTF8? bytes = none := dif_neg h
      exact ⟨_, by rw [read, htext]⟩
  | unreachable | directory => exact ⟨_, rfl⟩

end StoredFile

namespace Configuration

variable {path basePath userPath : String} {file base user : StoredFile} {error : Error}

theorem isFatal_of_ofDocument {document : Table} (h : ofDocument path document = .error error) :
    error.isFatal = true := by
  rw [ofDocument] at h
  split at h
  · cases h
  · cases h
    rfl

theorem isFatal_of_readDocument {text : String} (h : readDocument path text = .error error) :
    error.isFatal = true := by
  rw [readDocument] at h
  split at h
  · cases h
  · cases h
    rfl

theorem readFile?_of_not_isReadable (h : ¬file.IsReadable) (path : String) :
    ∃ reason, readFile? path file = .error (.io reason) := by
  obtain ⟨reason, hread⟩ := StoredFile.read_of_not_isReadable h
  exact ⟨reason, bind_eq_error_iff.mpr (.inl hread)⟩

theorem isFatal_of_readFile? (hreadable : file.IsReadable)
    (h : readFile? path file = .error error) : error.isFatal = true := by
  obtain ⟨text?, hread⟩ := StoredFile.read_of_isReadable hreadable
  rcases bind_eq_error_iff.mp h with hfails | ⟨found, hfound, h⟩
  · exact nomatch hread.symm.trans hfails
  cases found with
  | none => cases h
  | some text =>
      rcases bind_eq_error_iff.mp h with hfails | ⟨document, -, h⟩
      · exact isFatal_of_readDocument hfails
      rcases bind_eq_error_iff.mp h with hfails | ⟨_, -, h⟩
      · exact isFatal_of_ofDocument (discard_eq_error_iff.mp hfails)
      · cases h

theorem addFile_eq_error_iff {document : Table} :
    addFile document path file = .error error ↔ readFile? path file = .error error := by
  refine bind_eq_error_iff.trans ⟨?_, .inl⟩
  rintro (hfails | ⟨document?, -, h⟩)
  · exact hfails
  · cases document? with
    | none => cases h
    | some => cases h

theorem addFile_of_ofFile {configuration : Configuration}
    (h : ofFile path file = .ok configuration) (document : Table) :
    ∃ merged, addFile document path file = .ok merged := by
  obtain ⟨document?, hread, -⟩ := bind_eq_ok_iff.mp h
  cases document? with
  | none => exact ⟨_, bind_eq_ok_iff.mpr ⟨none, hread, rfl⟩⟩
  | some incoming => exact ⟨_, bind_eq_ok_iff.mpr ⟨some incoming, hread, rfl⟩⟩

/-- Whether loading comes to a file that cannot be read: the base file, or the user's file if the
base file is accepted on its own. -/
def StopsUnread (basePath : String) (base user : StoredFile) : Prop :=
  ¬base.IsReadable ∨
    (∃ configuration, ofFile basePath base = .ok configuration) ∧ ¬user.IsReadable

theorem load_of_stopsUnread (h : StopsUnread basePath base user) (userPath : String) :
    ∃ reason, load basePath base userPath user = .error (.io reason) := by
  rcases h with hbase | ⟨⟨configuration, haccepted⟩, huser⟩
  · obtain ⟨reason, hfails⟩ := readFile?_of_not_isReadable hbase basePath
    exact ⟨reason, bind_eq_error_iff.mpr (.inl (addFile_eq_error_iff.mpr hfails))⟩
  · obtain ⟨first, hfirst⟩ := addFile_of_ofFile haccepted []
    obtain ⟨reason, hfails⟩ := readFile?_of_not_isReadable huser userPath
    refine ⟨reason, bind_eq_error_iff.mpr (.inr ⟨first, hfirst, ?_⟩)⟩
    exact bind_eq_error_iff.mpr (.inl (addFile_eq_error_iff.mpr hfails))

/-- Whatever else loading fails for is fatal: a file that is no document, a setting of the wrong
shape in one of the files, or one in both together. -/
theorem isFatal_of_load (hread : ¬StopsUnread basePath base user)
    (h : load basePath base userPath user = .error error) : error.isFatal = true := by
  obtain ⟨hbase, huser⟩ := not_or.mp hread
  rcases bind_eq_error_iff.mp h with hfails | ⟨first, hfirst, h⟩
  · exact isFatal_of_readFile? (Classical.not_not.mp hbase) (addFile_eq_error_iff.mp hfails)
  obtain ⟨configuration, haccepted, -⟩ := addFile_eq_ok hfirst
  rcases bind_eq_error_iff.mp h with hfails | ⟨merged, -, h⟩
  · have hreadable : user.IsReadable :=
      Classical.byContradiction fun hnot => huser ⟨⟨configuration, haccepted⟩, hnot⟩
    exact isFatal_of_readFile? hreadable (addFile_eq_error_iff.mp hfails)
  · exact isFatal_of_ofDocument h

end Configuration

end HostBridge
