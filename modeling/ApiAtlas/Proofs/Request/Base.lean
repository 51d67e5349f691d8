import ApiAtlas.Proofs.Request.Resource

/-!
# Bases that name the place of the resources

The base of a server may be given with the place of the resources at its end or without it, and with
slashes behind either. The place is taken off wherever its characters are the last ones of a base.
This is what is meant if a slash stands in front of them; a longer name that ends in them loses its
end, and the URL of a resource leads somewhere else.
-/

namespace ApiAtlas.Request

/-! ## Slashes at the end -/

theorem withoutSlashes_concat_slash (cs : List Char) :
    withoutSlashes (cs ++ ['/']) = withoutSlashes cs := by
  simp [withoutSlashes, Text.dropEndWhile]

theorem withoutSlashes_eq_self {cs : List Char} (h : cs.getLast? ≠ some '/') :
    withoutSlashes cs = cs := by
  rcases List.eq_nil_or_concat cs with rfl | ⟨front, c, rfl⟩
  · rfl
  · rw [List.concat_eq_append, List.getLast?_concat, ne_eq, Option.some_inj] at h
    simp [withoutSlashes, Text.dropEndWhile, h]

/-- A run of slashes. -/
def Slashes (cs : List Char) : Prop := ∀ c ∈ cs, c = '/'

theorem exists_slashes (cs : List Char) : ∃ run, cs = withoutSlashes cs ++ run ∧ Slashes run := by
  obtain ⟨run, hcs, hrun⟩ := Text.dropEndWhile_append_run (· == '/') cs
  exact ⟨run, hcs, fun c hc => by simpa using List.all_eq_true.mp hrun c hc⟩

/-! ## The place of the resources at the end -/

/-- The base that a text means: there are no slashes at its end, and the place of the resources is
not there either if it was behind a slash. -/
def meantBase (base : List Char) : List Char :=
  let base := withoutSlashes base
  if ('/' :: resourceRoot).isSuffixOf base then
    withoutSlashes (base.take (base.length - ('/' :: resourceRoot).length))
  else base

/-- Whether a base ends in the characters of the place of the resources with no slash in front of
them. -/
def Glued (base : List Char) : Prop :=
  ∃ front, withoutSlashes base = front ++ resourceRoot ∧ front.getLast? ≠ some '/'

variable {base front : List Char}

theorem serverBase_of_root (h : withoutSlashes base = front ++ resourceRoot) :
    serverBase base = withoutSlashes front := by
  have hsuffix : resourceRoot.isSuffixOf (withoutSlashes base) = true :=
    List.isSuffixOf_iff_suffix.mpr ⟨front, h.symm⟩
  rw [serverBase, if_pos hsuffix, h, List.length_append, Nat.add_sub_cancel, List.take_left]

theorem serverBase_of_no_root (h : ¬ resourceRoot <:+ withoutSlashes base) :
    serverBase base = withoutSlashes base :=
  if_neg (mt List.isSuffixOf_iff_suffix.mp h)

theorem meantBase_of_root (h : withoutSlashes base = front ++ '/' :: resourceRoot) :
    meantBase base = withoutSlashes front := by
  have hsuffix : ('/' :: resourceRoot).isSuffixOf (withoutSlashes base) = true :=
    List.isSuffixOf_iff_suffix.mpr ⟨front, h.symm⟩
  rw [meantBase, if_pos hsuffix, h, List.length_append, Nat.add_sub_cancel, List.take_left]

theorem meantBase_of_no_root (h : ¬ '/' :: resourceRoot <:+ withoutSlashes base) :
    meantBase base = withoutSlashes base :=
  if_neg (mt List.isSuffixOf_iff_suffix.mp h)

theorem not_suffix_of_glued (h : Glued base) : ¬ '/' :: resourceRoot <:+ withoutSlashes base := by
  obtain ⟨front, hfront, hlast⟩ := h
  rintro ⟨front', hroot⟩
  rw [hfront, List.append_cons, List.append_left_inj] at hroot
  rw [← hroot, List.getLast?_concat] at hlast
  exact hlast rfl

/-- A base ends in the place of the resources behind a slash, or in its characters alone, or in
neither. -/
theorem ending_cases (base : List Char) :
    (∃ front, withoutSlashes base = front ++ '/' :: resourceRoot) ∨ Glued base ∨
      ¬ resourceRoot <:+ withoutSlashes base := by
  by_cases hroot : resourceRoot <:+ withoutSlashes base
  · obtain ⟨front, hfront⟩ := hroot
    by_cases hlast : front.getLast? = some '/'
    · obtain ⟨before, rfl⟩ := List.getLast?_eq_some_iff.mp hlast
      exact .inl ⟨before, by rw [← hfront, List.append_assoc]; rfl⟩
    · exact .inr (.inl ⟨front, hfront.symm, hlast⟩)
  · exact .inr (.inr hroot)

/-! ## What is kept of a base -/

theorem serverBase_eq_meantBase_iff : serverBase base = meantBase base ↔ ¬ Glued base := by
  rcases ending_cases base with ⟨front, hfront⟩ | hglued | hnone
  · have hslash : withoutSlashes base = (front ++ ['/']) ++ resourceRoot := by
      rw [hfront, List.append_assoc]
      rfl
    rw [serverBase_of_root hslash, withoutSlashes_concat_slash, meantBase_of_root hfront]
    exact iff_of_true rfl fun hglued => not_suffix_of_glued hglued ⟨front, hfront.symm⟩
  · rw [meantBase_of_no_root (not_suffix_of_glued hglued)]
    obtain ⟨front, hfront, hlast⟩ := hglued
    rw [serverBase_of_root hfront, withoutSlashes_eq_self hlast, hfront]
    refine iff_of_false (fun heq => ?_) (not_not.mpr ⟨front, hfront, hlast⟩)
    exact absurd (List.self_eq_append_right.mp heq) (by decide)
  · have hmeant : ¬ '/' :: resourceRoot <:+ withoutSlashes base := fun hsuffix =>
      hnone ((List.suffix_cons '/' resourceRoot).trans hsuffix)
    rw [serverBase_of_no_root hnone, meantBase_of_no_root hmeant]
    exact iff_of_true rfl fun ⟨front, hfront, _⟩ => hnone ⟨front, hfront.symm⟩

/-- What may be dropped at the end of a base: slashes, and among them the characters of the place of
the resources. -/
def MayBeDropped (tail : List Char) : Prop :=
  Slashes tail ∨
    ∃ before behind, tail = before ++ resourceRoot ++ behind ∧ Slashes before ∧ Slashes behind

theorem exists_dropped (base : List Char) :
    ∃ tail, base = serverBase base ++ tail ∧ MayBeDropped tail := by
  obtain ⟨behind, hbase, hbehind⟩ := exists_slashes base
  by_cases hroot : resourceRoot <:+ withoutSlashes base
  · obtain ⟨front, hfront⟩ := hroot
    obtain ⟨before, hsplit, hbefore⟩ := exists_slashes front
    refine ⟨before ++ resourceRoot ++ behind, ?_, .inr ⟨before, behind, rfl, hbefore, hbehind⟩⟩
    calc base = front ++ resourceRoot ++ behind := by rw [hfront]; exact hbase
      _ = withoutSlashes front ++ before ++ resourceRoot ++ behind := by rw [← hsplit]
      _ = serverBase base ++ (before ++ resourceRoot ++ behind) := by
        rw [serverBase_of_root hfront.symm]
        simp only [List.append_assoc]
  · refine ⟨behind, ?_, .inl hbehind⟩
    rw [serverBase_of_no_root hroot]
    exact hbase

/-- The place of the resources below a server, and the path behind it. -/
def textBelow (server : List Char) (path : String) : String :=
  String.ofList (server ++ '/' :: resourceRoot ++ '/' :: pathBehind path)

theorem textBelow_inj {server server' : List Char} {path : String} :
    textBelow server path = textBelow server' path ↔ server = server' := by
  simp [textBelow, String.ofList_inj]

/-- The text that is read as the URL of a resource is the path below what is kept of the base, and
nothing but slashes and the characters of the place of the resources is ever dropped at its end.
What is kept is the base that is meant, with all of its last name, exactly if the base does not end
in these characters with no slash in front of them. -/
theorem resourceText_meant_iff (base path : String) :
    (∃ tail, base.toList = serverBase base.toList ++ tail ∧ MayBeDropped tail) ∧
      resourceText base path = textBelow (serverBase base.toList) path ∧
      (resourceText base path = textBelow (meantBase base.toList) path ↔ ¬ Glued base.toList) := by
  have htext : resourceText base path = textBelow (serverBase base.toList) path := rfl
  refine ⟨exists_dropped base.toList, htext, ?_⟩
  rw [htext, textBelow_inj]
  exact serverBase_eq_meantBase_iff

/-- A directory that is called like the place of the resources at its end loses this end. -/
theorem not_resourceText_meant_directory :
    resourceText "https://pve.example/old-api2/json" "/version" =
        "https://pve.example/old-/api2/json/version" ∧
      textBelow (meantBase "https://pve.example/old-api2/json".toList) "/version" =
        "https://pve.example/old-api2/json/api2/json/version" ∧
      resourceText "https://pve.example/old-api2/json" "/version" ≠
        textBelow (meantBase "https://pve.example/old-api2/json".toList) "/version" := by
  decide +kernel

example : textBelow (meantBase "https://pve.example//api2/json/".toList) "/version" =
    "https://pve.example/api2/json/version" := by
  decide +kernel

end ApiAtlas.Request
