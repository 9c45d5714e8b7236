import FlowDiagram.Folder
import FlowDiagram.Proofs.Results

/-! # Reading what was written

A file that was written anew holds what was written, and text that was added to a file is at its end.
Which names can be written is known from the folders in a folder, so writing does not change it.  And
writing to some files changes no others.
-/

namespace FlowDiagram.Folder

variable {d d' : Folder} {name s : String}

theorem write_eq_ok :
    d.write name s = .ok d' ↔
      ∃ p, d.place name = .ok p ∧ d' = { d with files := d.files.put p s } := by
  rw [write, bind_eq_ok]
  refine exists_congr fun p => and_congr_right fun _ => ?_
  constructor
  · rintro ⟨⟩
    rfl
  · rintro rfl
    rfl

theorem read_eq_ok :
    d.read name = .ok s ↔ ∃ p, d.place name = .ok p ∧ d.files.get? p = some s := by
  rw [read, bind_eq_ok]
  refine exists_congr fun p => and_congr_right fun _ => ?_
  cases d.files.get? p <;> simp

/-- Where a file is kept does not depend on the files. -/
theorem place_files (d : Folder) (files : OrderedMap String String) (name : String) :
    ({ d with files := files } : Folder).place name = d.place name := rfl

/-- What a file holds can be read under any name that leads to it. -/
theorem read_of_place {name' : String} (h : d.read name = .ok s)
    (hplace : d.place name' = d.place name) : d.read name' = .ok s := by
  obtain ⟨p, hp, hget⟩ := read_eq_ok.1 h
  exact read_eq_ok.2 ⟨p, hplace.trans hp, hget⟩

theorem read_write (h : d.write name s = .ok d') : d'.read name = .ok s := by
  obtain ⟨p, hp, rfl⟩ := write_eq_ok.1 h
  rw [read_eq_ok]
  exact ⟨p, by rw [place_files, hp], by rw [OrderedMap.get?_put, if_pos rfl]⟩

theorem read_append (h : d.read name = .ok s) (added : String) :
    (d.append name added).read name = .ok (s ++ added) := by
  obtain ⟨p, hp, hget⟩ := read_eq_ok.1 h
  have happend : d.append name added = { d with files := d.files.put p (s ++ added) } := by
    simp only [append, hp, hget]
  rw [read_eq_ok, happend]
  exact ⟨p, by rw [place_files, hp], by rw [OrderedMap.get?_put, if_pos rfl]⟩

theorem exists_write {p : String} (h : d.place name = .ok p) (content : String) :
    ∃ d', d.write name content = .ok d' :=
  ⟨_, write_eq_ok.2 ⟨p, h, rfl⟩⟩

/-- A file that can be read can be written anew. -/
theorem exists_write_of_read (h : d.read name = .ok s) (content : String) :
    ∃ d', d.write name content = .ok d' := by
  obtain ⟨p, hp, -⟩ := read_eq_ok.1 h
  exact exists_write hp content

/-- Of two folders, the second holds what the first does, but perhaps for other texts in files that
some of the names lead to. -/
structure SameBut (names : List String) (d d' : Folder) : Prop where
  folders : d'.folders = d.folders
  files : ∀ p, (∀ n ∈ names, d.place n ≠ .ok p) → d'.files.get? p = d.files.get? p
  keeps : ∀ p, (d.files.get? p).isSome → (d'.files.get? p).isSome

variable {names names' : List String} {d'' : Folder}

theorem SameBut.place (h : SameBut names d d') : d'.place = d.place := by
  funext name
  simp only [Folder.place, h.folders]

theorem SameBut.refl (names : List String) (d : Folder) : SameBut names d d :=
  ⟨rfl, fun _ _ => rfl, fun _ => id⟩

theorem SameBut.trans (h : SameBut names d d') (h' : SameBut names d' d'') :
    SameBut names d d'' where
  folders := h'.folders.trans h.folders
  files := by
    intro p hp
    rw [h'.files p (by simpa only [h.place] using hp), h.files p hp]
  keeps := fun p hp => h'.keeps p (h.keeps p hp)

theorem SameBut.mono (h : SameBut names d d') (hnames : names ⊆ names') : SameBut names' d d' where
  folders := h.folders
  files := fun p hp => h.files p fun n hn => hp n (hnames hn)
  keeps := h.keeps

/-- Only the file that a name leads to is written to. -/
theorem sameBut_put {p : String} (hp : d.place name = .ok p) (s : String) :
    SameBut [name] d { d with files := d.files.put p s } where
  folders := rfl
  files := by
    intro p' hp'
    rw [OrderedMap.get?_put, if_neg]
    rintro rfl
    exact hp' name (List.mem_singleton_self name) hp
  keeps := by
    intro p' hp'
    rw [OrderedMap.get?_put]
    split
    · rfl
    · exact hp'

theorem sameBut_write (h : d.write name s = .ok d') : SameBut [name] d d' := by
  obtain ⟨p, hp, rfl⟩ := write_eq_ok.1 h
  exact sameBut_put hp s

theorem sameBut_append (d : Folder) (name added : String) :
    SameBut [name] d (d.append name added) := by
  unfold append
  split
  · exact .refl _ d
  · next p hp =>
    split
    · exact sameBut_put hp _
    · exact .refl _ d

/-- A file reads as before if none of the names leads to it. -/
theorem SameBut.read (h : SameBut names d d') (hapart : ∀ n ∈ names, d.place n ≠ d.place name) :
    d'.read name = d.read name := by
  rw [Folder.read, Folder.read, h.place]
  cases hp : d.place name with
  | error e => rfl
  | ok p =>
    have hget := h.files p fun n hn => hp ▸ hapart n hn
    simp only [bind, Except.bind, hget]

/-- A file that can be read still can be. -/
theorem SameBut.exists_read (h : SameBut names d d') (hread : ∃ s, d.read name = .ok s) :
    ∃ s, d'.read name = .ok s := by
  obtain ⟨s, hs⟩ := hread
  obtain ⟨p, hp, hget⟩ := read_eq_ok.1 hs
  obtain ⟨s', hs'⟩ := Option.isSome_iff_exists.1 (h.keeps p (by rw [hget]; rfl))
  exact ⟨s', read_eq_ok.2 ⟨p, by rw [h.place, hp], hs'⟩⟩

end FlowDiagram.Folder
