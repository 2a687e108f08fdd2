import AddonBindings.Proofs.Files.Spelling
import AddonBindings.Proofs.Project.Acceptance

/-!
Contract: how loading settings can end.

Owns:
- the contents of a settings file that end the program instead of being reported;
- the law that every other failure to load settings is reported as a configuration
  problem of the file;
- the document and the name of settings that are loaded.

Does not own: which documents are settings, which is in
`AddonBindings.Proofs.Project.Acceptance`, and what the program prints then, which is in
`AddonBindings.Proofs.CommandLine.SettingsFailure`.
-/

namespace AddonBindings.Settings

open Files Traversal

variable {tree : FileTree} {path : Path} {bytes : List UInt8} {fault : Fault}

/-! ## Contents that are not reported -/

/-- What in the contents of a settings file is not reported: they are no UTF-8, a scalar or
a number in them does not fit its type, or nothing is wrong with them but a name that a
report cannot show. -/
inductive HasDefect (bytes : List UInt8) : Fault → Prop
  | undecodable {fault : Text.Utf8Fault} (refused : Text.decodeUtf8 bytes = .error fault) :
      HasDefect bytes (.undecodable fault)
  | scalar {text : String} {fault : Yaml.ScalarFault} (decoded : Text.decodeUtf8 bytes = .ok text)
      (unfit : Yaml.read (String.ofList (Text.foldNewlines text.toList)) =
        .error (.scalar fault)) :
      HasDefect bytes (.scalar fault)
  | name {text : String} {document : Datum} (decoded : Text.decodeUtf8 bytes = .ok text)
      (read : Yaml.read (String.ofList (Text.foldNewlines text.toList)) = .ok document)
      (unwritable : IsUnwritable document) :
      HasDefect bytes .unwritableName

theorem HasDefect.isReported (defect : HasDefect bytes fault) : fault.isReported = false := by
  cases defect <;> rfl

/-! ## Loading -/

theorem exists_ofDatum_of_load {settings : Settings} (loaded : load tree path = .ok settings) :
    ∃ document, ofDatum document path.text = .ok settings := by
  rw [load] at loaded
  split at loaded
  next bytes read =>
    obtain ⟨text, decoded, onward⟩ := bind_eq_ok_iff.mp loaded
    split at onward
    next document _ => exact ⟨document, onward⟩
    next => cases onward
    next => cases onward
  next => cases loaded
  next => cases loaded

/-- Accepted settings have a name that an addon may have. -/
theorem exists_addonName_of_ofDatum {document : Datum} {source : String} {settings : Settings}
    (accepted : ofDatum document source = .ok settings) :
    ∃ addon, settings.name = .text addon ∧ isAddonName addon.toList = true := by
  obtain ⟨entries, -, stated⟩ := ofDatum_eq_ok_iff.mp accepted
  obtain ⟨addon, checked⟩ := stated.accepted
  obtain ⟨isText, isName⟩ := checkAddonName_eq_ok_iff.mp checked
  exact ⟨addon, isText, isAddonName_iff.mpr isName⟩

end AddonBindings.Settings
