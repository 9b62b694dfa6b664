import Mathlib.Data.List.Forall2
import SeriesCatalog.Proofs.Settings.Process
import SeriesCatalog.Proofs.Text.Pieces

/-! Hosts that are given as one text. However names are put into a text, with blanks around them and blank pieces
between them, the same names in the same order are read from it. The cluster that a process opens from such settings has
a host for each name, and none is opened from settings that name none. What else there is to keep a process from opening
a cluster has nothing to do with hosts. -/

namespace SeriesCatalog

open Text

namespace Hosts

/-- A name that can stand in a text of hosts. -/
structure IsName (name : String) : Prop where
  content : name ≠ ""
  plain : ',' ∉ name.toList
  tight : IsTight isBlank name.toList

/-- Pieces that hold names: each name has a piece of its own, in which blanks may stand around it, and every other piece
is blank. -/
inductive Hold : List String → List String → Prop
  | nil : Hold [] []
  | blank {piece : String} {pieces names : List String} (hpiece : isBlankText piece = true) (hrest : Hold pieces names) :
    Hold (piece :: pieces) names
  | name {before after : String} (name : String) {piece : String} {pieces names : List String}
    (hbefore : isBlankText before = true) (hafter : isBlankText after = true) (hpiece : piece = before ++ name ++ after)
    (hrest : Hold pieces names) : Hold (piece :: pieces) (name :: names)

/-- A text that spells names: pieces that hold them, joined by commas. -/
structure Spells (text : String) (names : List String) : Prop where
  areNames : ∀ name ∈ names, IsName name
  areHeld : ∃ pieces, Hold pieces names ∧ ",".intercalate pieces = text

/-- The pieces that are not blank. -/
def filled (pieces : List String) : List String := pieces.filter (!isBlankText ·)

theorem filled_cons_of_blank {piece : String} (h : isBlankText piece = true) (rest : List String) :
    filled (piece :: rest) = filled rest :=
  List.filter_cons_of_neg (by simp [h])

theorem filled_cons_of_not_blank {piece : String} (h : isBlankText piece = false) (rest : List String) :
    filled (piece :: rest) = piece :: filled rest :=
  List.filter_cons_of_pos (by simp [h])

theorem filled_eq_nil_iff {pieces : List String} :
    filled pieces = [] ↔ ∀ piece ∈ pieces, isBlankText piece = true := by
  simp [filled, List.filter_eq_nil_iff]

theorem parse_of_cutsInto {text : String} {pieces : List String} (h : CutsInto ',' text pieces) :
    parse text = (filled pieces).map trim := by
  rw [parse, splitAll_eq_iff.mpr h, List.filter_map, filled]
  apply congrArg (List.map trim)
  apply List.filter_congr
  intro piece _
  rw [Function.comp_apply, Bool.eq_iff_iff, decide_eq_true_iff, Ne, trim_eq_empty_iff, Bool.not_eq_true,
    Bool.not_eq_true']

/-! ### Names in pieces -/

theorem comma_notMem_of_isBlankText {s : String} (h : isBlankText s = true) : ',' ∉ s.toList := by
  intro hmem
  exact absurd (List.all_eq_true.mp h ',' hmem) (by decide)

theorem Hold.plain {pieces names : List String} (h : Hold pieces names) (hnames : ∀ name ∈ names, IsName name) :
    ∀ piece ∈ pieces, ',' ∉ piece.toList := by
  induction h with
  | nil => exact List.forall_mem_nil _
  | blank hpiece _ ih => exact List.forall_mem_cons.mpr ⟨comma_notMem_of_isBlankText hpiece, ih hnames⟩
  | name name hbefore hafter hpiece _ ih =>
      obtain ⟨hname, hrest⟩ := List.forall_mem_cons.mp hnames
      refine List.forall_mem_cons.mpr ⟨?_, ih hrest⟩
      simp [hpiece, comma_notMem_of_isBlankText hbefore, comma_notMem_of_isBlankText hafter, hname.plain]

/-- Names are what trimming leaves of the pieces that hold them. -/
theorem Hold.map_trim {pieces names : List String} (h : Hold pieces names) (hnames : ∀ name ∈ names, IsName name) :
    (filled pieces).map trim = names := by
  induction h with
  | nil => rfl
  | blank hpiece _ ih =>
      rw [filled_cons_of_blank hpiece, ih hnames]
  | name name hbefore hafter hpiece _ ih =>
      obtain ⟨hname, hrest⟩ := List.forall_mem_cons.mp hnames
      have htrim := trim_eq_iff.mpr ⟨⟨_, _, hbefore, hafter, hpiece⟩, hname.tight⟩
      have hfilled := mt trim_eq_empty_iff.mpr (htrim ▸ hname.content)
      rw [filled_cons_of_not_blank (by simpa using hfilled), List.map_cons, htrim, ih hrest]

theorem hold_map_trim (pieces : List String) : Hold pieces ((filled pieces).map trim) := by
  induction pieces with
  | nil => exact .nil
  | cons piece rest ih =>
      cases hblank : isBlankText piece with
      | true =>
          rw [filled_cons_of_blank hblank]
          exact .blank hblank ih
      | false =>
          obtain ⟨before, after, hbefore, hafter, hpiece⟩ := (trim_eq_iff.mp (Eq.refl (trim piece))).padded
          rw [filled_cons_of_not_blank hblank, List.map_cons]
          exact .name (trim piece) hbefore hafter hpiece ih

theorem hold_self (names : List String) : Hold names names := by
  induction names with
  | nil => exact .nil
  | cons name rest ih =>
      have hname : name = "" ++ name ++ "" := by simp
      exact .name name rfl rfl hname ih

/-! ### Texts -/

theorem isName_of_mem_parse {text name : String} (h : name ∈ parse text) : IsName name := by
  rw [parse, List.mem_filter] at h
  obtain ⟨hmem, hcontent⟩ := h
  obtain ⟨piece, hpiece, rfl⟩ := List.mem_map.mp hmem
  obtain ⟨⟨before, after, -, -, hpadded⟩, htight⟩ := trim_eq_iff.mp (Eq.refl (trim piece))
  refine ⟨by simpa using hcontent, fun hcomma => ?_, htight⟩
  have hplain := (splitAll_eq_iff.mp rfl).plain piece hpiece
  rw [hpadded] at hplain
  simp [hcomma] at hplain

/-- A text is read as the names that it spells. -/
theorem parse_eq_iff {text : String} {names : List String} : parse text = names ↔ Spells text names := by
  constructor
  · rintro rfl
    have hcuts : CutsInto ',' text (splitAll ',' text) := splitAll_eq_iff.mp rfl
    refine ⟨fun name => isName_of_mem_parse, splitAll ',' text, ?_, hcuts.joined⟩
    rw [parse_of_cutsInto hcuts]
    exact hold_map_trim _
  · rintro ⟨hnames, pieces, hhold, rfl⟩
    cases pieces with
    | nil =>
        -- no pieces join to the empty text, which is cut into one piece, a blank one
        cases hhold
        rfl
    | cons piece rest =>
        have hcuts : CutsInto ',' (",".intercalate (piece :: rest)) (piece :: rest) :=
          ⟨List.cons_ne_nil _ _, hhold.plain hnames, rfl⟩
        rw [parse_of_cutsInto hcuts, hhold.map_trim hnames]

/-- Names that were read are read again from their text. -/
theorem parse_intercalate_parse (text : String) : parse (",".intercalate (parse text)) = parse text :=
  parse_eq_iff.mpr ⟨fun _ => isName_of_mem_parse, parse text, hold_self _, rfl⟩

end Hosts

/-! ### Clusters -/

theorem Cluster.ofHosts_eq_error_iff {hosts : List String} {indexSuffix allIndex : String} {fault : Fault} :
    ofHosts hosts indexSuffix allIndex = .error fault ↔ fault = .noHosts ∧ hosts = [] := by
  cases hosts with
  | nil => simp [ofHosts, eq_comm]
  | cons host rest => simp [ofHosts]

theorem Cluster.ofHosts_of_ne_nil {hosts : List String} (h : hosts ≠ []) (indexSuffix allIndex : String) :
    ofHosts hosts indexSuffix allIndex = .ok ⟨hosts.map (dropTrailing '/'), indexSuffix, allIndex, true⟩ := by
  rw [ofHosts, if_neg (by simpa using h)]

namespace Settings

/-- The host that a piece stands for: without the blanks around it and then without slashes at its end. -/
def IsHostOf (piece host : String) : Prop := ∃ name, TrimsTo piece name ∧ ShedsTo '/' name host

/-- How settings are read whose hosts are one text of the given pieces: as the names that it spells, which their own
text spells too. A process that is ready opens a cluster with a host for each piece that is not blank, and is refused
only if there is none. Without such a piece no process opens one; with one, a process that is not ready is refused for
what hinders it. -/
structure ReadsHosts (s : Settings) (text : String) (pieces : List String) : Prop where
  named : ∀ names, s.hosts.toList = names ↔ Hosts.Spells text names
  again : (Hosts.joined (",".intercalate s.hosts.toList)).toList = s.hosts.toList
  refused : ∀ construct client p, p.IsReady construct client → ∀ fault,
    (s.openCluster construct client p).1 = .error fault ↔
      fault = .noHosts ∧ ∀ piece ∈ pieces, isBlankText piece = true
  opened : (∃ piece ∈ pieces, isBlankText piece = false) →
    ∃ hosts, List.Forall₂ IsHostOf (Hosts.filled pieces) hosts ∧
      ∀ construct client p, p.IsReady construct client → ∃ next, next.level.isSome = true ∧
        s.openCluster construct client p = (.ok ⟨hosts, s.indexSuffix, s.allIndex, true⟩, next)
  blank : (∀ piece ∈ pieces, isBlankText piece = true) →
    ∀ construct client p, s.openCluster construct client p = (.error .noHosts, p)
  hindered : (∃ piece ∈ pieces, isBlankText piece = false) →
    ∀ construct client p fault, (s.openCluster construct client p).1 = .error fault ↔ p.Hinders construct client fault

/-- The cluster that settings describe, by the pieces of their hosts. -/
theorem cluster_of_pieces {s : Settings} {pieces : List String} (h : s.hosts.toList = (Hosts.filled pieces).map trim) :
    (∀ piece ∈ pieces, isBlankText piece = true) ∧ s.cluster = .error .noHosts ∨
      (∃ piece ∈ pieces, isBlankText piece = false) ∧
        ∃ hosts, List.Forall₂ IsHostOf (Hosts.filled pieces) hosts ∧
          s.cluster = .ok ⟨hosts, s.indexSuffix, s.allIndex, true⟩ := by
  by_cases hblank : ∀ piece ∈ pieces, isBlankText piece = true
  · refine .inl ⟨hblank, Cluster.ofHosts_eq_error_iff.mpr ⟨rfl, ?_⟩⟩
    rw [h, Hosts.filled_eq_nil_iff.mpr hblank, List.map_nil]
  · have hne : s.hosts.toList ≠ [] := by
      rwa [h, Ne, List.map_eq_nil_iff, Hosts.filled_eq_nil_iff]
    refine .inr ⟨by simpa using hblank, _, ?_, Cluster.ofHosts_of_ne_nil hne _ _⟩
    rw [h, List.map_map, List.forall₂_map_right_iff, List.forall₂_same]
    intro piece _
    exact ⟨trim piece, trim_eq_iff.mp rfl, dropTrailing_eq_iff.mp rfl⟩

/-- A text falls into pieces in one way, and settings whose hosts it is are read as `ReadsHosts` says. -/
theorem openCluster_readsHosts {s : Settings} {text : String} (h : s.hosts = .joined text) :
    ∃ pieces, (∀ other, CutsInto ',' text other ↔ other = pieces) ∧ s.ReadsHosts text pieces := by
  have hcuts : CutsInto ',' text (splitAll ',' text) := splitAll_eq_iff.mp rfl
  have hlist : s.hosts.toList = (Hosts.filled (splitAll ',' text)).map trim := by
    rw [h]
    exact Hosts.parse_of_cutsInto hcuts
  have hnamed : ∀ names, s.hosts.toList = names ↔ Hosts.Spells text names := by
    intro names
    rw [h]
    exact Hosts.parse_eq_iff
  have hagain : (Hosts.joined (",".intercalate s.hosts.toList)).toList = s.hosts.toList := by
    rw [h]
    exact Hosts.parse_intercalate_parse text
  refine ⟨splitAll ',' text, fun other => splitAll_eq_iff.symm.trans eq_comm, ?_⟩
  rcases cluster_of_pieces hlist with ⟨hblank, hcluster⟩ | ⟨⟨piece, hpiece, hcontent⟩, hosts, hhosts, hcluster⟩
  · have hnone : ¬∃ piece ∈ splitAll ',' text, isBlankText piece = false := by
      rintro ⟨piece, hpiece, hcontent⟩
      exact Bool.false_ne_true (hcontent.symm.trans (hblank piece hpiece))
    exact {
      named := hnamed
      again := hagain
      refused := by
        intro construct client p _ fault
        rw [openCluster_of_error hcluster, Except.error.injEq]
        exact ⟨fun hfault => ⟨hfault.symm, hblank⟩, fun hfault => hfault.1.symm⟩
      opened := fun hsome => absurd hsome hnone
      blank := fun _ _ _ _ => openCluster_of_error hcluster
      hindered := fun hsome => absurd hsome hnone }
  · have hsome : ¬∀ piece ∈ splitAll ',' text, isBlankText piece = true := by
      intro hblank
      exact Bool.false_ne_true (hcontent.symm.trans (hblank piece hpiece))
    exact {
      named := hnamed
      again := hagain
      refused := by
        intro construct client p hready fault
        rw [openCluster_eq_error_iff hcluster]
        exact iff_of_false (hready fault) fun hnone => hsome hnone.2
      opened := fun _ => ⟨hosts, hhosts, fun _ _ _ hready => openCluster_of_isReady hcluster hready⟩
      blank := fun hblank => absurd hblank hsome
      hindered := fun _ _ _ _ _ => openCluster_eq_error_iff hcluster }

/-- Three names, one of them twice, among blanks of several kinds and blank pieces. A process that holds nothing yet
builds settings for its log, of level INFO; one whose settings have an unknown level opens no cluster. -/
theorem openCluster_readsHosts_of_padded :
    let pieces := [" http://a/ ", "", "\thttp://b//", "\u00a0", "http://a/"]
    let names := ["http://a/", "http://b//", "http://a/"]
    let hosts := ["http://a", "http://b", "http://a"]
    let s : Settings := { hosts := .joined " http://a/ ,,\thttp://b//,\u00a0,http://a/" }
    let loud : Process := { store := { kept := some { logLevel := "loud" } } }
    s.hosts = .joined (",".intercalate pieces) ∧ Hosts.Spells (",".intercalate pieces) names ∧ s.hosts.toList = names ∧
      List.Forall₂ IsHostOf (Hosts.filled pieces) hosts ∧
      (∃ next, next.level.isSome = true ∧
        s.openCluster build (.ok ()) {} = (.ok ⟨hosts, "", allNamespaces, true⟩, next)) ∧
      (s.openCluster build (.ok ()) loud).1 = .error (.unknownLevel "loud") := by
  intro pieces names hosts s loud
  have hhosts : s.hosts = .joined (",".intercalate pieces) := rfl
  have hspace : isBlankText " " = true := rfl
  have htab : isBlankText "\t" = true := rfl
  have hnone : isBlankText "" = true := rfl
  have hheld : Hosts.Hold pieces names :=
    .name "http://a/" hspace hspace rfl <| .blank rfl <| .name "http://b//" htab hnone rfl <| .blank rfl <|
      .name "http://a/" hnone hnone rfl .nil
  have hplain : ∀ name ∈ names, name ≠ "" ∧ ',' ∉ name.toList := by decide
  have htrimmed : ∀ name ∈ names, trim name = name := by decide
  have hnames : ∀ name ∈ names, Hosts.IsName name := by
    intro name hname
    exact ⟨(hplain name hname).1, (hplain name hname).2, (trim_eq_iff.mp (htrimmed name hname)).tight⟩
  have hspells : Hosts.Spells (",".intercalate pieces) names := ⟨hnames, pieces, hheld, rfl⟩
  have hbuilt : build [] {} = .ok {} := rfl
  have hready : Process.IsReady build (.ok ()) {} :=
    Process.isReady_iff.mpr ⟨rfl, .inr ⟨{}, .built rfl hbuilt, by decide⟩⟩
  have hheldLoud : loud.Holds build { logLevel := "loud" } := .kept rfl
  have hloud : loud.Hinders build (.ok ()) (.unknownLevel "loud") := .log rfl (.unnamed rfl hheldLoud (by decide))
  obtain ⟨parts, hcuts, hreads⟩ := openCluster_readsHosts hhosts
  obtain rfl : pieces = parts := (hcuts pieces).mp ⟨by decide, by decide, rfl⟩
  have hfilled : ∃ piece ∈ pieces, isBlankText piece = false := ⟨"http://a/", by decide, rfl⟩
  obtain ⟨found, hfound, hopened⟩ := hreads.opened hfilled
  obtain ⟨next, hlevel, hnext⟩ := hopened build (.ok ()) {} hready
  have hcluster : s.cluster = .ok ⟨hosts, "", allNamespaces, true⟩ := rfl
  obtain rfl : found = hosts := by
    have hdescribed := (cluster_of_openCluster hnext).symm.trans hcluster
    injection hdescribed with hdescribed
    injection hdescribed
  exact ⟨hhosts, hspells, (hreads.named names).mpr hspells, hfound, ⟨next, hlevel, hnext⟩,
    (hreads.hindered hfilled build (.ok ()) loud _).mpr hloud⟩

end Settings

end SeriesCatalog
