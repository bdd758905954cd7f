import Mathlib.Data.List.Basic
import OriginServer.Files.Provider
import OriginServer.Proofs.Path.Escapes

/-!
# How request paths are mapped

Between its slashes a request path has pieces, and those that are neither empty nor a single dot are
its names (`Path.names`). A file provider maps the path exactly if no piece is two dots, and then
onto its root extended by the names in order; so the path is answered as every other path with the
same names, and a path that the server does not refuse is always mapped
(`FileProvider.target?_exact`).
-/
namespace OriginServer

namespace Path

/-! ## Pieces and names -/

/-- The texts between the slashes of a path. -/
def pieces (path : String) : List String := (path.toList.splitOn '/').map String.ofList

/-- The pieces of a path that are neither empty nor a single dot. -/
def names (path : String) : List String :=
  (pieces path).filter fun piece => piece != "" && piece != "."

/-- Two dots are a name if they are a piece. -/
theorem up_mem_names_iff {path : String} : ".." ∈ names path ↔ ".." ∈ pieces path := by
  rw [names, List.mem_filter]
  exact and_iff_left (by decide)

/-- The bytes between the slash bytes of a text are those of the characters between its slashes. -/
theorem splitOn_ofChars (chars : List Char) :
    (Utf8.ofChars chars).splitOn FileTree.slash = (chars.splitOn '/').map Utf8.ofChars := by
  induction chars with
  | nil => rfl
  | cons char rest ih =>
    rw [Utf8.ofChars, List.flatMap_cons, ← Utf8.ofChars, List.splitOn_cons_eq_if_modifyHead]
    by_cases slash : char = '/'
    · have byte : String.utf8EncodeChar char = [FileTree.slash] := by
        rw [slash]
        decide
      rw [byte, List.singleton_append, List.splitOn_cons_eq_if_modifyHead, ih]
      simp [slash, Utf8.ofChars]
    · have absent : FileTree.slash ∉ String.utf8EncodeChar char := fun inside =>
        slash (Char.toNat_inj.mp (Utf8.eq_of_mem_ascii (by decide) inside))
      obtain ⟨first, later, split⟩ := List.exists_cons_of_ne_nil (List.splitOn_ne_nil '/' rest)
      rw [split, List.map_cons] at ih
      rw [splitOn_append absent ih, split]
      simp [slash, Utf8.ofChars]

/-- The bytes between the slashes of a path are those of its pieces. -/
theorem splitOn_encode (path : String) :
    (Utf8.encode path).splitOn FileTree.slash = (pieces path).map Utf8.encode := by
  have same : Utf8.encode ∘ String.ofList = Utf8.ofChars := by
    funext chars
    rw [Function.comp, Utf8.encode_eq_ofChars, String.toList_ofList]
  rw [Utf8.encode_eq_ofChars, splitOn_ofChars, pieces, List.map_map, same]

/-! ## Pieces of legal paths -/

/-- A first piece of at most two dots stands for itself when escapes are replaced, and two dots
between slashes still stand between slashes. -/
theorem dots_of_decoding {chars : List Char} {bytes : Bytes}
    (decoding : Form.Decoding chars bytes) :
    ∃ head tail block blocks, chars.splitOn '/' = head :: tail ∧
      bytes.splitOn 0x2F = block :: blocks ∧ (head = [] → block = []) ∧
      (head = ['.'] → block = [0x2E]) ∧ (head = ['.', '.'] → block = [0x2E, 0x2E]) ∧
      (['.', '.'] ∈ tail → [0x2E, 0x2E] ∈ blocks) := by
  induction decoding with
  | nil => exact ⟨[], [], [], [], by simp⟩
  | @escape high low first last chars bytes readFirst readLast later ih =>
    obtain ⟨head, tail, block, blocks, split, cut, -, -, -, more⟩ := ih
    have digit {char : Char} {value : Nat} (read : Text.hexDigit? char = some value) :
        '/' ≠ char := by
      rintro rfl
      cases read
    have absent : '/' ∉ ['%', high, low] := by
      simp [digit readFirst, digit readLast]
    have whole := splitOn_append absent split
    by_cases slash : UInt8.ofNat (16 * first + last) = 0x2F
    · refine ⟨_, tail, [], block :: blocks, whole, ?_, by simp, by simp, by simp, ?_⟩
      · rw [List.splitOn_cons_eq_if_modifyHead, cut, if_pos (by simpa using slash)]
      · exact fun inside => List.mem_cons_of_mem _ (more inside)
    · have apart : (0x2F : UInt8) ∉ [UInt8.ofNat (16 * first + last)] := fun inside =>
        slash (List.mem_singleton.mp inside).symm
      exact ⟨_, tail, _, blocks, whole, splitOn_append apart cut, by simp, by simp, by simp, more⟩
  | @plain char chars bytes unescaped later ih =>
    obtain ⟨head, tail, block, blocks, split, cut, empty, one, two, more⟩ := ih
    by_cases slash : char = '/'
    · subst slash
      refine ⟨[], head :: tail, [], block :: blocks, ?_, ?_, by simp, by simp, by simp, ?_⟩
      · rw [List.splitOn_cons_eq_if_modifyHead, split]
        rfl
      · change (0x2F :: bytes).splitOn 0x2F = _
        rw [List.splitOn_cons_eq_if_modifyHead, cut]
        rfl
      · intro inside
        rcases List.mem_cons.mp inside with here | inside
        · rw [two here.symm]
          exact List.mem_cons_self
        · exact List.mem_cons_of_mem _ (more inside)
    · have absent : '/' ∉ [char] := by simpa using fun same => slash same.symm
      have apart : (0x2F : UInt8) ∉ String.utf8EncodeChar char := fun inside =>
        slash (Char.toNat_inj.mp (Utf8.eq_of_mem_ascii (by decide) inside))
      refine ⟨_, tail, _, blocks, splitOn_append absent split, splitOn_append apart cut, by simp,
        ?_, ?_, more⟩
      · intro dot
        obtain ⟨rfl, rest⟩ := List.cons.inj dot
        rw [empty rest]
        decide
      · intro dots
        obtain ⟨rfl, rest⟩ := List.cons.inj dots
        rw [one rest]
        decide

/-- No piece of a legal path is two dots. -/
theorem up_not_mem_pieces {path : String} (legal : isIllegal path = false) :
    ".." ∉ pieces path := by
  intro inside
  obtain ⟨piece, among, shown⟩ := List.mem_map.mp inside
  have dots : piece = ['.', '.'] := by
    rw [← String.toList_ofList (l := piece), shown]
    rfl
  have decoding := Form.decoding_percentDecode path.toList
  rw [← Utf8.encode_eq_ofChars] at decoding
  obtain ⟨head, tail, block, blocks, split, cut, -, -, two, more⟩ := dots_of_decoding decoding
  obtain ⟨-, -, -, -, noUp⟩ := (isIllegal_eq_false_iff path).mp legal
  apply noUp
  rw [cut]
  rw [split, dots] at among
  rcases List.mem_cons.mp among with here | later
  · rw [two here.symm]
    exact List.mem_cons_self
  · exact List.mem_cons_of_mem _ (more later)

end Path

namespace FileProvider

/-! ## Following components -/

/-- The slashes in front of a path are in front of empty segments, which stand for nothing. -/
theorem filterMap_splitOn_dropWhile (path : Bytes) :
    ((path.dropWhile (· == FileTree.slash)).splitOn FileTree.slash).filterMap
        Component.ofSegment? =
      (path.splitOn FileTree.slash).filterMap Component.ofSegment? := by
  induction path with
  | nil => rfl
  | cons byte rest ih =>
    rw [List.dropWhile_cons]
    by_cases slash : (byte == FileTree.slash) = true
    · rw [if_pos slash, ih, List.splitOn_cons_eq_if_modifyHead, if_pos slash]
      rfl
    · rw [if_neg slash]

/-- The segments that count: the empty ones and single dots do not. -/
def counted (segments : List Bytes) : List Bytes :=
  segments.filter fun segment => segment != [] && segment != [0x2E]

/-- An empty segment or a single dot does not count. -/
theorem counted_cons_of_skipped {segment : Bytes} (skipped : segment = [] ∨ segment = [0x2E])
    (rest : List Bytes) : counted (segment :: rest) = counted rest := by
  apply List.filter_cons_of_neg
  rcases skipped with rfl | rfl <;> decide

/-- Every other segment counts. -/
theorem counted_cons_of_counts {segment : Bytes} (counts : ¬(segment = [] ∨ segment = [0x2E]))
    (rest : List Bytes) : counted (segment :: rest) = segment :: counted rest := by
  apply List.filter_cons_of_pos
  simpa [not_or] using counts

/-- Following the components of segments leads to the path extended by the segments that count,
unless one of these is two dots. -/
theorem follow_filterMap (path : Bytes) (segments : List Bytes) :
    follow path (segments.filterMap Component.ofSegment?) =
      if (counted segments).contains [0x2E, 0x2E] then none
      else some ((counted segments).foldl extend path) := by
  induction segments generalizing path with
  | nil => rfl
  | cons segment rest ih =>
    by_cases skipped : segment = [] ∨ segment = [0x2E]
    · have none : Component.ofSegment? segment = none := if_pos skipped
      rw [List.filterMap_cons_none none, ih, counted_cons_of_skipped skipped]
    · rw [counted_cons_of_counts skipped]
      by_cases up : segment = [0x2E, 0x2E]
      · have parent : Component.ofSegment? segment = some .parent := by
          rw [Component.ofSegment?, if_neg skipped, if_pos up]
        rw [List.filterMap_cons_some parent, follow]
        simp [up]
      · have normal : Component.ofSegment? segment = some (.normal segment) := by
          rw [Component.ofSegment?, if_neg skipped, if_neg up]
        have other : ¬[0x2E, 0x2E] = segment := fun same => up same.symm
        rw [List.filterMap_cons_some normal, follow, ih]
        simp [other]

/-- A request path is mapped segment by segment. -/
theorem target?_eq (root : Bytes) (path : String) :
    target? root path =
      if (segments path).contains [0x2E, 0x2E] then none
      else some ((segments path).foldl extend root) := by
  have relative : ((Utf8.encode path).dropWhile (· == FileTree.slash)).head? ≠
      some FileTree.slash := by
    intro first
    have stops := List.head?_dropWhile_not (· == FileTree.slash) (Utf8.encode path)
    rw [first] at stops
    simp at stops
  have whole : segments path = counted ((Utf8.encode path).splitOn FileTree.slash) := rfl
  rw [target?, Component.ofPath, if_neg relative, filterMap_splitOn_dropWhile, whole,
    ← follow_filterMap]
  -- A dot in front is a component of its own, but it leads nowhere else.
  split
  · rw [follow]
  · rfl

/-- No segment between separators holds one. -/
theorem not_mem_of_mem_splitOn {separator : UInt8} {bytes segment : Bytes}
    (inside : segment ∈ bytes.splitOn separator) : separator ∉ segment := by
  induction bytes generalizing segment with
  | nil =>
    rw [List.splitOn_nil, List.mem_singleton] at inside
    simp [inside]
  | cons byte rest ih =>
    rw [List.splitOn_cons_eq_if_modifyHead] at inside
    by_cases same : byte = separator
    · simp only [same, beq_self_eq_true, if_true, List.mem_cons] at inside
      cases inside with
      | inl empty => simp [empty]
      | inr inside => exact ih inside
    · obtain ⟨head, tail, split⟩ := List.exists_cons_of_ne_nil (List.splitOn_ne_nil separator rest)
      simp only [beq_iff_eq, same, if_false, split, List.modifyHead_cons, List.mem_cons] at inside
      rw [split] at ih
      cases inside with
      | inl first =>
        have absent := ih List.mem_cons_self
        simp [first, absent, Ne.symm same]
      | inr inside => exact ih (List.mem_cons_of_mem _ inside)

/-- The segments that count in a request path are the bytes of its names. -/
theorem segments_eq (path : String) : segments path = (Path.names path).map Utf8.encode := by
  have whole : segments path = counted ((Utf8.encode path).splitOn FileTree.slash) := rfl
  rw [whole, Path.splitOn_encode, counted, List.filter_map, Path.names]
  congr 1
  apply List.filter_congr
  intro piece _
  have empty : Utf8.encode piece = [] ↔ piece = "" :=
    ⟨fun same => Utf8.encode_injective (same.trans (by decide : [] = Utf8.encode "")),
      fun same => same ▸ by decide⟩
  have dot : Utf8.encode piece = [0x2E] ↔ piece = "." :=
    ⟨fun same => Utf8.encode_injective (same.trans (by decide : [0x2E] = Utf8.encode ".")),
      fun same => same ▸ by decide⟩
  rw [Bool.eq_iff_iff]
  simp only [Function.comp, Bool.and_eq_true, bne_iff_ne, ne_eq, empty, dot]

/-- What stands behind the last slash of a path is its last segment. -/
theorem splitOn_slash (front : Bytes) {last : Bytes} (single : FileTree.slash ∉ last) :
    (front ++ FileTree.slash :: last).splitOn FileTree.slash =
      front.splitOn FileTree.slash ++ [last] := by
  rw [List.splitOn_append_cons_self, List.splitOn_eq_singleton single]

/-- One segment more at the end of a path adds the component that it stands for. -/
theorem ofPath_of_splitOn {path longer segment : Bytes}
    (split : longer.splitOn FileTree.slash = path.splitOn FileTree.slash ++ [segment])
    (start : longer.head? = path.head?) :
    Component.ofPath longer = Component.ofPath path ++ (Component.ofSegment? segment).toList := by
  have front : (path.splitOn FileTree.slash ++ [segment]).head? =
      (path.splitOn FileTree.slash).head? :=
    List.head?_append_of_ne_nil _ (List.splitOn_ne_nil FileTree.slash path)
  have inside : (path.splitOn FileTree.slash ++ [segment]).filterMap Component.ofSegment? =
      (path.splitOn FileTree.slash).filterMap Component.ofSegment? ++
        (Component.ofSegment? segment).toList := by
    rw [List.filterMap_append]
    cases read : Component.ofSegment? segment <;> simp [read]
  rw [Component.ofPath, Component.ofPath, split, start, front, inside]
  by_cases rooted : path.head? = some FileTree.slash
  · rw [if_pos rooted, if_pos rooted, List.cons_append]
  · rw [if_neg rooted, if_neg rooted]
    by_cases dotted : (path.splitOn FileTree.slash).head? = some [0x2E]
    · rw [if_pos dotted, if_pos dotted, List.cons_append]
    · rw [if_neg dotted, if_neg dotted]

/-- A name by itself is a path of one component. -/
theorem ofPath_name {name : Bytes} (single : FileTree.slash ∉ name)
    (read : Component.ofSegment? name = some (.normal name)) :
    Component.ofPath name = [.normal name] := by
  have relative : name.head? ≠ some FileTree.slash := fun first =>
    single (List.mem_of_head? first)
  have notDot : name ≠ [0x2E] := by
    rintro rfl
    cases read
  rw [Component.ofPath, if_neg relative, List.splitOn_eq_singleton single, List.head?_cons]
  simp [notDot, read]

/-- A name behind a slash is a path of two components. -/
theorem ofPath_slash {name : Bytes} (single : FileTree.slash ∉ name)
    (read : Component.ofSegment? name = some (.normal name)) :
    Component.ofPath (FileTree.slash :: name) = [.root, .normal name] := by
  have nothing : Component.ofSegment? [] = none := rfl
  have whole : (FileTree.slash :: name).splitOn FileTree.slash = [[], name] := by
    simpa using splitOn_slash [] single
  rw [Component.ofPath, List.head?_cons, if_pos rfl, whole, List.filterMap_cons_none nothing,
    List.filterMap_cons_some read]
  rfl

/-- A path extended by a name has one component more, the name. -/
theorem ofPath_extend (path : Bytes) {name : Bytes} (single : FileTree.slash ∉ name)
    (read : Component.ofSegment? name = some (.normal name)) :
    Component.ofPath (extend path name) = Component.ofPath path ++ [.normal name] := by
  have behind (front : Bytes) := splitOn_slash front single
  have alone (front : Bytes) := splitOn_slash front (List.not_mem_nil (a := FileTree.slash))
  have nothing : Component.ofSegment? [] = none := rfl
  by_cases empty : path = []
  · rw [extend, if_pos (.inl empty), empty, List.nil_append, ofPath_name single read]
    rfl
  · by_cases closed : path.getLast? = some FileTree.slash
    · obtain ⟨front, rfl⟩ := List.getLast?_eq_some_iff.mp closed
      rw [extend, if_pos (.inr closed), List.append_assoc, List.singleton_append]
      by_cases first : front = []
      · -- The uppermost directory itself is extended.
        have uppermost : Component.ofPath [FileTree.slash] = [.root] := by decide
        rw [first, List.nil_append, List.nil_append, uppermost, ofPath_slash single read]
        rfl
      · rw [ofPath_of_splitOn (behind front) (List.head?_append_of_ne_nil _ first),
          ofPath_of_splitOn (alone front) (List.head?_append_of_ne_nil _ first), read, nothing,
          Option.toList_none, List.append_nil]
        rfl
    · rw [extend, if_neg (not_or.mpr ⟨empty, closed⟩),
        ofPath_of_splitOn (behind path) (List.head?_append_of_ne_nil _ empty), read]
      rfl

/-- A path is extended by names component by component. -/
theorem ofPath_foldl_extend (path : Bytes) {names : List Bytes}
    (named : ∀ name ∈ names, FileTree.slash ∉ name ∧
      Component.ofSegment? name = some (.normal name)) :
    Component.ofPath (names.foldl extend path) = Component.ofPath path ++ names.map .normal := by
  induction names generalizing path with
  | nil => simp
  | cons name rest ih =>
    rw [List.forall_mem_cons] at named
    rw [List.foldl_cons, ih _ named.2, ofPath_extend path named.1.1 named.1.2, List.map_cons,
      List.append_assoc, List.singleton_append]

/-- The names of a path without pieces of two dots are names of entries. -/
theorem normal_of_mem_names {path name : String} (noUp : ".." ∉ Path.pieces path)
    (inside : name ∈ Path.names path) : FileTree.slash ∉ Utf8.encode name ∧
      Component.ofSegment? (Utf8.encode name) = some (.normal (Utf8.encode name)) := by
  have counts : Utf8.encode name ∈ segments path := by
    rw [segments_eq]
    exact List.mem_map_of_mem inside
  rw [segments, List.mem_filter, Bool.and_eq_true, bne_iff_ne, bne_iff_ne] at counts
  have notUp : Utf8.encode name ≠ [0x2E, 0x2E] := by
    intro same
    have up : name = ".." := Utf8.encode_injective (same.trans (by decide))
    exact noUp (Path.up_mem_names_iff.mp (up ▸ inside))
  refine ⟨not_mem_of_mem_splitOn counts.1, ?_⟩
  rw [Component.ofSegment?, if_neg (not_or.mpr counts.2), if_neg notUp]

/-- A path is mapped name by name, unless one of its pieces is two dots. -/
theorem target?_eq_names (root : Bytes) (path : String) :
    target? root path =
      if ".." ∈ Path.pieces path then none
      else some (((Path.names path).map Utf8.encode).foldl extend root) := by
  have up : ((Path.names path).map Utf8.encode).contains [0x2E, 0x2E] = true ↔
      ".." ∈ Path.pieces path := by
    have dots : [0x2E, 0x2E] = Utf8.encode ".." := by decide
    rw [List.contains_iff_mem, dots, ← Path.up_mem_names_iff]
    exact List.mem_map_of_injective fun _ _ same => Utf8.encode_injective same
  rw [target?_eq, segments_eq]
  by_cases dots : ".." ∈ Path.pieces path
  · rw [if_pos dots, if_pos (up.mpr dots)]
  · rw [if_neg dots, if_neg fun inside => dots (up.mp inside)]

/-- A path is mapped nowhere exactly if one of its pieces is two dots. -/
theorem target?_eq_none_iff {root : Bytes} {path : String} :
    target? root path = none ↔ ".." ∈ Path.pieces path := by
  rw [target?_eq_names]
  by_cases up : ".." ∈ Path.pieces path <;> simp [up]

/-- What loading leaves of a response, and whether it ends well, depends on the mapped path only. -/
theorem load_congr {provider : FileProvider} {path other : String}
    (same : target? provider.root other = target? provider.root path) (response : Response) :
    (provider.load other response).response = (provider.load path response).response ∧
      ((provider.load other response).ending = .done ↔
        (provider.load path response).ending = .done) := by
  rw [load, load, same]
  cases target? provider.root path with
  | none => simp
  | some target => cases found : provider.tree.read target <;> simp [found]

/-- **Request paths are mapped name by name.** A path is mapped nowhere exactly if one of its pieces
is two dots. If it is mapped, then onto the root extended by its names, so that these follow the
components of the root. Paths with the same names are claimed alike, and loading them leaves the
same response and ends well for both or for neither. A path that is not refused is mapped. -/
theorem target?_exact (root : Bytes) (path : String) :
    (target? root path = none ↔ ".." ∈ Path.pieces path) ∧
    (∀ target, target? root path = some target →
      target = ((Path.names path).map Utf8.encode).foldl extend root ∧
      Component.ofPath target =
        Component.ofPath root ++ (Path.names path).map fun name => .normal (Utf8.encode name)) ∧
    (∀ (tree : FileTree) (other : String), Path.names other = Path.names path →
      claims ⟨root, tree⟩ other = claims ⟨root, tree⟩ path ∧
      ∀ response, (load ⟨root, tree⟩ other response).response =
          (load ⟨root, tree⟩ path response).response ∧
        ((load ⟨root, tree⟩ other response).ending = .done ↔
          (load ⟨root, tree⟩ path response).ending = .done)) ∧
    (Path.isIllegal path = false → target? root path ≠ none) := by
  refine ⟨target?_eq_none_iff, ?_, ?_, ?_⟩
  · intro target mapped
    rw [target?_eq_names] at mapped
    by_cases up : ".." ∈ Path.pieces path
    · simp [up] at mapped
    · rw [if_neg up, Option.some.injEq] at mapped
      have named : ∀ name ∈ (Path.names path).map Utf8.encode, FileTree.slash ∉ name ∧
          Component.ofSegment? name = some (.normal name) := by
        rw [List.forall_mem_map]
        exact fun name inside => normal_of_mem_names up inside
      refine ⟨mapped.symm, ?_⟩
      rw [← mapped, ofPath_foldl_extend root named, List.map_map]
      rfl
  · intro tree other same
    have mapped : target? root other = target? root path := by
      rw [target?_eq, target?_eq, segments_eq, segments_eq, same]
    refine ⟨?_, load_congr mapped⟩
    rw [claims, claims, mapped]
  · intro legal
    rw [target?_eq_names, if_neg (Path.up_not_mem_pieces legal)]
    exact Option.some_ne_none _

/-- A directory of notes with a page in it. -/
def notesFiles : FileProvider :=
  { root := Utf8.encode "./notes/"
    tree := .directory [(Utf8.encode "notes", .directory
      [(Utf8.encode "a", .directory [(Utf8.encode "b.txt", .file (Utf8.encode "text") 0)])])] }

/-- A page is found under two spellings of its path. -/
theorem target?_exact_notes :
    target? notesFiles.root "//a/./b.txt/" = some (Utf8.encode "./notes/a/b.txt") ∧
      Path.names "//a/./b.txt/" = Path.names "/a/b.txt" ∧
      Path.isIllegal "//a/./b.txt/" = false ∧
      Component.ofPath (Utf8.encode "./notes/a/b.txt") =
        Component.ofPath notesFiles.root ++ [.normal (Utf8.encode "a"),
          .normal (Utf8.encode "b.txt")] ∧
      (notesFiles.claims "/a/b.txt").granted = true ∧
      notesFiles.claims "//a/./b.txt/" = notesFiles.claims "/a/b.txt" ∧
      target? notesFiles.root "//a/./b.txt/" ≠ none := by
  have mapped : target? notesFiles.root "//a/./b.txt/" = some (Utf8.encode "./notes/a/b.txt") := by
    decide +kernel
  have sameNames : Path.names "//a/./b.txt/" = Path.names "/a/b.txt" := by decide +kernel
  have legal : Path.isIllegal "//a/./b.txt/" = false := by decide +kernel
  have claimed : (notesFiles.claims "/a/b.txt").granted = true := by decide +kernel
  obtain ⟨-, extended, -, allowed⟩ := target?_exact notesFiles.root "//a/./b.txt/"
  obtain ⟨-, -, alike, -⟩ := target?_exact notesFiles.root "/a/b.txt"
  have components := (extended _ mapped).2
  have listed : ((Path.names "//a/./b.txt/").map fun name => Component.normal (Utf8.encode name)) =
      [.normal (Utf8.encode "a"), .normal (Utf8.encode "b.txt")] := by decide +kernel
  rw [listed] at components
  exact ⟨mapped, sameNames, legal, components, claimed,
    (alike notesFiles.tree "//a/./b.txt/" sameNames).1, allowed legal⟩

end FileProvider

end OriginServer
