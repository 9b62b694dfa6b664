import Mathlib.Data.List.TakeDrop
import Mathlib.Data.List.TakeWhile
import SeriesCatalog.Proofs.Fallible
import SeriesCatalog.Proofs.Text.Pieces
import SeriesCatalog.Search.Cluster

/-! Where a request arrives. The name of an index goes into the address as it stands. As long as it is one segment of a
path, and the host has none, the request goes to the place of that name and to no other one. -/

namespace SeriesCatalog

open Text

theorem Text.percentEncoded_eq_self {isPlain : Char → Bool} {cs : List Char} (h : ∀ c ∈ cs, isPlain c = true) :
    percentEncoded isPlain cs = cs := by
  induction cs with
  | nil => rfl
  | cons c rest ih =>
      obtain ⟨hc, hrest⟩ := List.forall_mem_cons.mp h
      calc percentEncoded isPlain (c :: rest) = percentChar isPlain c ++ percentEncoded isPlain rest := rfl
        _ = c :: rest := by rw [percentChar, if_pos hc, ih hrest, List.singleton_append]

namespace Address

/-- A scheme and what follows it up to the path, which is not there. -/
structure IsBare (host : String) : Prop where
  spelled : ∃ scheme authority, host.toList = scheme ++ ':' :: '/' :: '/' :: authority ∧ scheme ≠ [] ∧
    isScheme scheme = true ∧ (authority.all fun c => c ≠ '/' && c ≠ '?' && c ≠ '#') = true

/-- One segment of a path, which stands as it is and is not one of the two that stand for another place. -/
structure IsSegment (name : String) : Prop where
  chars : (name.toList.all fun c => isPathChar c && c ≠ '/') = true
  stays : name ≠ "." ∧ name ≠ ".."

theorem colon_notMem_of_isScheme {scheme : List Char} (h : isScheme scheme = true) : ':' ∉ scheme := by
  intro hmem
  cases scheme with
  | nil => cases hmem
  | cons c rest =>
      obtain ⟨hfirst, hrest⟩ := Bool.and_eq_true_iff.mp h
      rcases List.mem_cons.mp hmem with rfl | hmem
      · exact absurd hfirst (by decide)
      · exact absurd (List.all_eq_true.mp hrest ':' hmem) (by decide)

theorem takeScheme_spelled {scheme : List Char} (rest : List Char) (h : isScheme scheme = true) :
    takeScheme (scheme ++ ':' :: rest) = (scheme.map Char.toLower, rest) := by
  rw [takeScheme, cut?_append rest (colon_notMem_of_isScheme h)]
  simp only [h, if_true]

theorem takeAuthority_spelled {authority : List Char} (rest : List Char)
    (h : (authority.all fun c => c ≠ '/' && c ≠ '?' && c ≠ '#') = true) :
    takeAuthority ('/' :: '/' :: (authority ++ '/' :: rest)) = (authority, '/' :: rest) := by
  have hplain := List.all_eq_true.mp h
  rw [takeAuthority, List.span_eq_takeWhile_dropWhile, List.takeWhile_append_of_pos hplain,
    List.dropWhile_append_of_pos hplain]
  simp

theorem resolveDots_segment {name : List Char} (h : name ≠ ['.'] ∧ name ≠ ['.', '.']) :
    resolveDots [[], name, "_search".toList] = [[], name, "_search".toList] := by
  simp [resolveDots, h.1, h.2]

theorem IsSegment.of_mem {name : String} {c : Char} (h : IsSegment name) (hc : c ∈ name.toList) :
    isPathChar c = true ∧ c ≠ '/' := by
  simpa using List.all_eq_true.mp h.chars c hc

/-- The path of an index, character by character. -/
def pathOf (index : String) : List Char := '/' :: (index.toList ++ "/_search".toList)

theorem isPathChar_of_mem_pathOf {index : String} {c : Char} (hindex : IsSegment index) (h : c ∈ pathOf index) :
    isPathChar c = true := by
  have hsearch : "/_search".toList.all isPathChar = true := by decide
  rcases List.mem_cons.mp h with rfl | h
  · decide
  · rcases List.mem_append.mp h with h | h
    · exact (hindex.of_mem h).1
    · exact List.all_eq_true.mp hsearch c h

theorem readPath_pathOf {index : String} (hindex : IsSegment index) :
    readPath false (pathOf index) = .ok (pathOf index) := by
  have hslash : '/' ∉ index.toList := fun hmem => (hindex.of_mem hmem).2 rfl
  have hpieces : pieces '/' (pathOf index) = [[], index.toList, "_search".toList] := by
    rw [pathOf, pieces, if_pos rfl]
    exact congrArg ([] :: ·) (pieces_append "_search".toList hslash)
  have hstays : index.toList ≠ ['.'] ∧ index.toList ≠ ['.', '.'] := by
    refine ⟨fun hdot => hindex.stays.1 ?_, fun hdots => hindex.stays.2 ?_⟩
    · exact String.toList_inj.mp hdot
    · exact String.toList_inj.mp hdots
  have hjoined : ['/'].intercalate [[], index.toList, "_search".toList] = pathOf index := by
    simp [List.intercalate, List.intersperse, pathOf]
  rw [readPath, if_neg Bool.false_ne_true, hpieces, resolveDots_segment hstays, hjoined]
  exact congrArg Except.ok (percentEncoded_eq_self fun c hc => isPathChar_of_mem_pathOf hindex hc)

/-- A request for an index that is one segment goes to the place of that name. -/
theorem path_of_isSegment {host index : String} {a : Address} (hhost : IsBare host) (hindex : IsSegment index)
    (h : read (Cluster.addressOf host index).toList = .ok a) : a.path = pathOf index := by
  obtain ⟨scheme, authority, hspelled, hsome, hscheme, hauthority⟩ := hhost.spelled
  have haddress : (Cluster.addressOf host index).toList =
      scheme ++ ':' :: ('/' :: '/' :: (authority ++ pathOf index)) := by
    simp [Cluster.addressOf, hspelled, pathOf]
  have hwhole : ((pathOf index).takeWhile fun c => c ≠ '?' && c ≠ '#') = pathOf index := by
    apply List.takeWhile_eq_self_iff.mpr
    intro c hc
    have hplain := isPathChar_of_mem_pathOf hindex hc
    have hmarks : c ≠ '?' ∧ c ≠ '#' := by
      constructor
      · rintro rfl
        exact absurd hplain (by decide)
      · rintro rfl
        exact absurd hplain (by decide)
    simpa using hmarks
  have hauthor : takeAuthority ('/' :: '/' :: (authority ++ pathOf index)) = (authority, pathOf index) :=
    takeAuthority_spelled _ hauthority
  have hnamed : (scheme.map Char.toLower).isEmpty = false := by
    rw [List.isEmpty_eq_false_iff]
    exact fun hnil => hsome (List.map_eq_nil_iff.mp hnil)
  unfold read at h
  rw [haddress, takeScheme_spelled _ hscheme] at h
  simp only [hauthor, hnamed, Bool.false_and, hwhole, readPath_pathOf hindex] at h
  obtain ⟨hostName, -, h⟩ := Fallible.bind_eq_ok.mp h
  obtain ⟨service, -, h⟩ := Fallible.bind_eq_ok.mp h
  obtain ⟨path, hpath, h⟩ := Fallible.bind_eq_ok.mp h
  cases hpath
  split at h
  · cases h
    rfl
  · cases h

end Address

end SeriesCatalog
