import TunnelConfig.Files.Folder
import TunnelConfig.Proofs.Decoding
import TunnelConfig.Proofs.Keys

/-!
# Jobs with folders

**Jobs.** Jobs that follow one another are served one after another (`Job.run_bind`).

**Folders.** A file that was put where a path leads to is read back under that path
(`Folder.read_putFile`). The path is followed once more in the changed folder, and it leads to the
same place: all the places on the way are directories, and putting a file somewhere leaves every
other place what it was, as far as it was a directory.
-/

namespace TunnelConfig.Files

/-! ## Jobs -/

theorem Job.run_bind {α β : Type} (t : Job α) (k : α → Job β) (f : Folder) :
    (t >>= k).run f = (k (t.run f).1).run (t.run f).2 := by
  induction t generalizing f with
  | done a => rfl
  | look path next ih => exact ih _ f
  | read path next ih => exact ih _ f
  | write path bytes next ih => exact ih _ _
  | create path next ih => exact ih _ _
  | makeDirectories path next ih => exact ih _ _

/-- The bytes of a text are that text. -/
theorem textOf_toUTF8 (s : String) : textOf s.toUTF8.toList = .ok s := by
  have hbytes : (⟨s.toUTF8.toList.toArray⟩ : ByteArray) = s.toUTF8 := by
    rw [Text.toList_eq_data]
  have hread : String.fromUTF8? s.toUTF8 = some s := dif_pos s.isValidUTF8
  rw [textOf, hbytes, hread]

/-! ## Folders -/

namespace Folder

variable {f : Folder} {place target names others : List String} {path : String} (bytes : Bytes)

/-- What was put into a folder is there. -/
theorem kind?_putFile_self : (f.putFile target bytes).kind? target = some (.file bytes) := by
  simp [kind?, putFile]

/-- A directory stays one when a file is put somewhere else. -/
theorem kind?_putFile_directory (h : f.kind? names = some .directory) (hne : names ≠ target) :
    (f.putFile target bytes).kind? names = some .directory := by
  have hfile : f.files.find? (·.1 == names) = none := by
    rw [kind?] at h
    split at h
    · cases h
    · assumption
  have hnone : (f.putFile target bytes).files.find? (·.1 == names) = none := by
    rw [List.find?_eq_none] at hfile ⊢
    intro file hmem
    rcases List.mem_cons.mp hmem with rfl | hmem
    · simpa using hne.symm
    · exact hfile file ((List.mem_filter.mp hmem).1)
  rw [kind?, hfile] at h
  rw [kind?, hnone]
  refine if_pos ?_
  replace h := (Option.ite_none_right_eq_some.mp h).1
  simp only [Bool.or_eq_true] at h ⊢
  refine h.imp_right fun hfiles => ?_
  obtain ⟨file, hmem, hfile⟩ := List.any_eq_true.mp hfiles
  refine List.any_eq_true.mpr ?_
  by_cases htarget : file.1 = target
  · exact ⟨(target, bytes), List.mem_cons_self, htarget ▸ hfile⟩
  · refine ⟨file, List.mem_cons_of_mem _ (List.mem_filter.mpr ⟨hmem, ?_⟩), hfile⟩
    simpa using htarget

theorem follow_append : f.follow place (names ++ others) =
    (f.follow place names).bind (f.follow · others) := by
  induction names generalizing place with
  | nil => rfl
  | cons name names ih =>
    rw [List.cons_append, follow, follow]
    split
    · rfl
    · rfl
    · simp only [ih]
      split_ifs <;> rfl

/-- A way along directories stays when a file is put where no directory is. -/
theorem follow_putFile (htarget : f.kind? target ≠ some .directory)
    (h : f.follow place names = .ok others) :
    (f.putFile target bytes).follow place names = .ok others := by
  induction names generalizing place with
  | nil => exact h
  | cons name names ih =>
    rw [follow] at h ⊢
    cases hkind : f.kind? place with
    | none => rw [hkind] at h; cases h
    | some kind =>
      cases kind with
      | file => rw [hkind] at h; cases h
      | directory =>
        have hne : place ≠ target := by
          rintro rfl
          exact htarget hkind
        rw [hkind] at h
        rw [kind?_putFile_directory bytes hkind hne]
        simp only at h ⊢
        split_ifs at h ⊢ with hlong hdot hdots
        · exact ih h
        · exact ih h
        · exact ih h

/-- The path to the place of a file leads there and to no directory. -/
theorem of_filePlace (h : f.filePlace path = .ok target) :
    checkPath path = .ok () ∧ path.endsWith "/" = false ∧
      f.follow (f.origin path) (Path.names path) = .ok target ∧
      f.kind? target ≠ some .directory := by
  obtain ⟨_, hpath, h⟩ := bind_eq_ok_iff.mp h
  refine ⟨hpath, ?_⟩
  split at h
  · exact absurd h error_ne_ok
  · next last hlast =>
    obtain ⟨init, hnames⟩ := List.getLast?_eq_some_iff.mp hlast
    obtain ⟨place, hplace, h⟩ := bind_eq_ok_iff.mp h
    rw [hnames, List.dropLast_concat] at hplace
    rw [hnames, follow_append, hplace]
    show _ ∧ f.follow place [last] = _ ∧ _
    rw [follow]
    cases hkind : f.kind? place with
    | none => rw [hkind] at h; exact absurd h error_ne_ok
    | some kind =>
      cases kind with
      | file => rw [hkind] at h; exact absurd h error_ne_ok
      | directory =>
        rw [hkind] at h
        simp only at h ⊢
        by_cases hdots : (path.endsWith "/" || last == "." || last == "..") = true
        · rw [if_pos hdots] at h
          exact absurd h error_ne_ok
        rw [if_neg hdots] at h
        by_cases hlong : 255 < last.utf8ByteSize
        · rw [if_pos hlong] at h
          exact absurd h error_ne_ok
        rw [if_neg hlong] at h ⊢
        by_cases hdirectory : (f.kind? (place ++ [last]) == some .directory) = true
        · rw [if_pos hdirectory] at h
          exact absurd h error_ne_ok
        rw [if_neg hdirectory] at h
        obtain rfl := Except.ok.inj h
        simp only [Bool.or_eq_true, beq_iff_eq, not_or] at hdots hdirectory
        obtain ⟨⟨hend, hdot⟩, hdotdot⟩ := hdots
        rw [if_neg hdot, if_neg hdotdot]
        exact ⟨Bool.eq_false_iff.mpr hend, rfl, hdirectory⟩

/-- A file that was put where a path leads to is read back under the path. -/
theorem read_putFile (h : f.filePlace path = .ok target) :
    (f.putFile target bytes).read path = .ok bytes := by
  obtain ⟨hpath, hend, hfollow, htarget⟩ := of_filePlace h
  have hsame : (f.putFile target bytes).follow ((f.putFile target bytes).origin path)
      (Path.names path) = .ok target := follow_putFile bytes htarget hfollow
  have hkind : (f.putFile target bytes).kind path = .ok (.file bytes) := by
    rw [kind, hpath, hend]
    show ((f.putFile target bytes).follow _ (Path.names path ++ []) >>= _) = _
    rw [List.append_nil, hsame]
    simp only [bind, Except.bind, kind?_putFile_self]
    rfl
  rw [read, hkind]
  rfl

end Folder

end TunnelConfig.Files
