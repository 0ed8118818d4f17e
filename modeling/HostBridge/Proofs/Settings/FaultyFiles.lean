import HostBridge.Proofs.Settings.Failing

namespace HostBridge

theorem StoredFile.eq_io_of_read {file : StoredFile} {error : Error} (h : file.read = .error error) :
    ∃ reason, error = .io reason := by
  by_cases hreadable : file.IsReadable
  · obtain ⟨text?, hread⟩ := read_of_isReadable hreadable
    exact nomatch hread.symm.trans h
  · obtain ⟨reason, hread⟩ := read_of_not_isReadable hreadable
    exact ⟨reason, Except.error.inj (h.symm.trans hread)⟩

namespace Configuration

/-- What is wrong with a file on its own. -/
inductive Faulty (path : String) (file : StoredFile) : Error → Prop where
  | unread {reason : String} (hread : file.read = .error (.io reason)) :
      Faulty path file (.io reason)
  | noDocument {text : String} (hread : file.read = .ok (some text))
      (hdocument : Reader.document? text = none) : Faulty path file (.config path "syntax")
  | wrongShape {text : String} {document : Table} {fault : ShapeFault}
      (hread : file.read = .ok (some text)) (hdocument : Reader.document? text = some document)
      (hsettings : Settings.ofDocument document = .error fault) :
      Faulty path file (.config path fault.message)

variable {path basePath userPath : String} {file base user : StoredFile} {error : Error}

/-- No file is blamed for another one. -/
theorem Faulty.path_eq {named reason : String} (h : Faulty path file (.config named reason)) :
    named = path := by
  cases h with
  | noDocument => rfl
  | wrongShape => rfl

theorem ofDocument_eq_error_iff {document : Table} :
    ofDocument path document = .error error ↔
      ∃ fault, Settings.ofDocument document = .error fault ∧
        error = .config path fault.message := by
  rw [ofDocument]
  cases Settings.ofDocument document with
  | ok settings =>
      constructor
      · intro h
        cases h
      · rintro ⟨_, hfault, -⟩
        cases hfault
  | error fault =>
      constructor
      · intro h
        exact ⟨fault, rfl, (Except.error.inj h).symm⟩
      · rintro ⟨_, hfault, rfl⟩
        cases hfault
        rfl

theorem readFile?_eq_error_iff : readFile? path file = .error error ↔ Faulty path file error := by
  constructor
  · intro h
    rcases bind_eq_error_iff.mp h with hread | ⟨text?, hread, h⟩
    · obtain ⟨reason, rfl⟩ := StoredFile.eq_io_of_read hread
      exact .unread hread
    cases text? with
    | none => cases h
    | some text =>
    rcases bind_eq_error_iff.mp h with hfails | ⟨document, hdocument, h⟩
    · rw [readDocument] at hfails
      split at hfails
      next => cases hfails
      next hnone =>
        cases hfails
        exact .noDocument hread hnone
    rcases bind_eq_error_iff.mp h with hfails | ⟨_, -, h⟩
    · obtain ⟨fault, hfault, rfl⟩ := ofDocument_eq_error_iff.mp (discard_eq_error_iff.mp hfails)
      rw [readDocument] at hdocument
      split at hdocument
      next hsome =>
        cases hdocument
        exact .wrongShape hread hsome hfault
      next => cases hdocument
    · cases h
  · intro h
    refine bind_eq_error_iff.mpr ?_
    cases h with
    | unread hread => exact .inl hread
    | noDocument hread hnone =>
        refine .inr ⟨_, hread, bind_eq_error_iff.mpr (.inl ?_)⟩
        rw [readDocument, hnone]
    | wrongShape hread hsome hfault =>
        refine .inr ⟨_, hread, bind_eq_error_iff.mpr (.inr ⟨_, by rw [readDocument, hsome], ?_⟩)⟩
        refine bind_eq_error_iff.mpr (.inl (discard_eq_error_iff.mpr ?_))
        exact ofDocument_eq_error_iff.mpr ⟨_, hfault, rfl⟩

/-- A document that was accepted when it was read is accepted again. -/
theorem ofFile_eq_error_iff : ofFile path file = .error error ↔ Faulty path file error := by
  rw [← readFile?_eq_error_iff]
  cases hread : readFile? path file with
  | error fault =>
      rw [ofFile, hread]
      constructor
      · intro h
        cases h
        rfl
      · intro h
        cases h
        rfl
  | ok document? =>
      obtain ⟨configuration, hfile, -, -⟩ := readFile?_eq_ok hread
      rw [hfile]
      constructor
      · intro h
        cases h
      · intro h
        cases h

theorem addFile_eq (document : Table) (path : String) (file : StoredFile) :
    addFile document path file =
      (ofFile path file).map fun configuration =>
        Table.overlay document configuration.document := by
  cases hfile : ofFile path file with
  | error error =>
      exact addFile_eq_error_iff.mpr (readFile?_eq_error_iff.mpr (ofFile_eq_error_iff.mp hfile))
  | ok configuration =>
      obtain ⟨merged, hmerged⟩ := addFile_of_ofFile hfile document
      obtain ⟨configuration', hfile', rfl, -⟩ := addFile_eq_ok hmerged
      cases hfile.symm.trans hfile'
      exact hmerged

theorem ordered_of_ofFile {configuration : Configuration}
    (h : ofFile path file = .ok configuration) : Table.Ordered configuration.document := by
  obtain ⟨merged, hmerged⟩ := addFile_of_ofFile h []
  obtain ⟨configuration', hfile, -, hordered⟩ := addFile_eq_ok hmerged
  cases h.symm.trans hfile
  exact hordered

/-- The two files are read one after the other, and only what both hold together is left to be
checked. -/
theorem load_eq (basePath : String) (base : StoredFile) (userPath : String) (user : StoredFile) :
    load basePath base userPath user = (do
      let low ← ofFile basePath base
      let high ← ofFile userPath user
      ofDocument userPath (Table.overlay low.document high.document)) := by
  rw [load, addFile_eq]
  cases hlow : ofFile basePath base with
  | error error => rfl
  | ok low =>
      simp only [Except.map, bind, Except.bind, addFile_eq,
        (ordered_of_ofFile hlow).sorted.overlay_nil]
      cases ofFile userPath user with
      | error error => rfl
      | ok high => rfl

theorem ofFile_missing (path : String) : ofFile path .missing = .ok initial :=
  rfl

theorem ofDocument_of_ofFile {configuration : Configuration}
    (h : ofFile path file = .ok configuration) (other : String) :
    ofDocument other configuration.document = .ok configuration :=
  ofDocument_eq_ok_iff.mpr ⟨accepted_of_ofFile h, rfl⟩

theorem load_missing_user (basePath : String) (base : StoredFile) (userPath : String) :
    load basePath base userPath .missing = ofFile basePath base := by
  rw [load_eq, ofFile_missing]
  cases hlow : ofFile basePath base with
  | error error => rfl
  | ok low => exact ofDocument_of_ofFile hlow userPath

theorem load_missing_base (basePath userPath : String) (user : StoredFile) :
    load basePath .missing userPath user = ofFile userPath user := by
  rw [load_eq, ofFile_missing]
  cases hhigh : ofFile userPath user with
  | error error => rfl
  | ok high =>
      simp only [bind, Except.bind, initial, (ordered_of_ofFile hhigh).sorted.overlay_nil]
      exact ofDocument_of_ofFile hhigh userPath

/-- A faulty file is reported as it would be on its own: the base file whatever the user's file is,
and the user's file behind whatever base file that is not at fault. A missing file is never at fault
and leaves the other one as it is. -/
theorem load_reports_file_at_fault (basePath userPath : String) (base user : StoredFile) :
    (∀ error, Faulty basePath base error →
      load basePath base userPath user = .error error ∧
        load basePath base userPath .missing = .error error ∧
        ∀ named reason, error = .config named reason → named = basePath) ∧
    (∀ error, (∀ baseError, ¬Faulty basePath base baseError) → Faulty userPath user error →
      load basePath base userPath user = .error error ∧
        load basePath .missing userPath user = .error error ∧
        ∀ named reason, error = .config named reason → named = userPath) ∧
    (∀ path file error, ofFile path file = .error error ↔ Faulty path file error) ∧
    load basePath base userPath .missing = ofFile basePath base ∧
    load basePath .missing userPath user = ofFile userPath user ∧
    load basePath .missing userPath .missing = .ok initial := by
  refine ⟨fun error hfaulty => ?_, fun error hbase hfaulty => ?_, fun _ _ _ => ofFile_eq_error_iff,
    load_missing_user basePath base userPath, load_missing_base basePath userPath user,
    load_missing_user basePath .missing userPath⟩
  · have hfile := ofFile_eq_error_iff.mpr hfaulty
    refine ⟨?_, ?_, fun named reason heq => (heq ▸ hfaulty).path_eq⟩
    · rw [load_eq]
      exact bind_eq_error_iff.mpr (.inl hfile)
    · rw [load_missing_user, hfile]
  · have hfile := ofFile_eq_error_iff.mpr hfaulty
    refine ⟨?_, ?_, fun named reason heq => (heq ▸ hfaulty).path_eq⟩
    · cases hlow : ofFile basePath base with
      | error baseError => exact absurd (ofFile_eq_error_iff.mp hlow) (hbase baseError)
      | ok low =>
          rw [load_eq]
          refine bind_eq_error_iff.mpr (.inr ⟨low, hlow, ?_⟩)
          exact bind_eq_error_iff.mpr (.inl hfile)
    · rw [load_missing_base, hfile]

/-- A text that gives a number as a log file. -/
def misshapenText : String := "[unrealsdk]\nlog_file = 3\n"

/-- A directory in place of the base file hides the user's file, and an accepted base file does
not. -/
theorem load_of_directory_and_misshapen :
    let blamed : Error :=
      .config "user.toml" "invalid type: integer `3`, expected a string"
    Faulty "base.toml" .directory (.io "Is a directory (os error 21)") ∧
      load "base.toml" .directory "user.toml" (.ofText misshapenText)
        = .error (.io "Is a directory (os error 21)") ∧
      (∀ error, ¬Faulty "base.toml" (.ofText baseText) error) ∧
      Faulty "user.toml" (.ofText misshapenText) blamed ∧
      load "base.toml" (.ofText baseText) "user.toml" (.ofText misshapenText) = .error blamed := by
  intro blamed
  have hdirectory : Faulty "base.toml" .directory (.io "Is a directory (os error 21)") :=
    .unread rfl
  have haccepted : (ofFile "base.toml" (.ofText baseText)).toBool = true := by decide +kernel
  have hbase : ∀ error, ¬Faulty "base.toml" (.ofText baseText) error := by
    intro error hfaulty
    rw [ofFile_eq_error_iff.mpr hfaulty] at haccepted
    cases haccepted
  have huser : Faulty "user.toml" (.ofText misshapenText) blamed := by
    have hfails : (match ofFile "user.toml" (.ofText misshapenText) with
        | .error error => decide (error = blamed)
        | .ok _ => false) = true := by decide +kernel
    split at hfails
    next error hfile => exact ofFile_eq_error_iff.mp (of_decide_eq_true hfails ▸ hfile)
    next => cases hfails
  exact ⟨hdirectory,
    ((load_reports_file_at_fault "base.toml" "user.toml" .directory (.ofText misshapenText)).1
      _ hdirectory).1,
    hbase, huser,
    ((load_reports_file_at_fault "base.toml" "user.toml" (.ofText baseText)
      (.ofText misshapenText)).2.1 _ hbase huser).1⟩

end Configuration

end HostBridge
