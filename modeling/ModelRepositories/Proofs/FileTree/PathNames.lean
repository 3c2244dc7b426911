import ModelRepositories.FileTree.Basic

/-!
The names that a path goes through, and how they change when paths are joined and when the last name
is taken away. A `.` is no name here, since it leads nowhere.
-/

namespace ModelRepositories

theorem isName_iff {name : String} :
    isName name = true ↔ name ≠ "" ∧ '/' ∉ name.toList ∧ name ≠ "." ∧ name ≠ ".." := by
  simp [isName, and_assoc]

namespace Path

/-- The pieces that lead somewhere. -/
def proper (pieces : List String) : List String :=
  pieces.filter (· ≠ ".")

def names (path : Path) : List String :=
  proper path.pieces

@[simp] theorem proper_nil : proper [] = [] := rfl

theorem proper_here (rest : List String) : proper ("." :: rest) = proper rest :=
  List.filter_cons_of_neg (by simp)

theorem proper_cons {name : String} (notHere : name ≠ ".") (rest : List String) :
    proper (name :: rest) = name :: proper rest :=
  List.filter_cons_of_pos (by simpa using notHere)

theorem proper_append (first second : List String) :
    proper (first ++ second) = proper first ++ proper second :=
  List.filter_append first second

theorem mem_proper {name : String} {pieces : List String} :
    name ∈ proper pieces ↔ name ∈ pieces ∧ name ≠ "." := by
  simp [proper]

def IsPiece (piece : String) : Prop :=
  piece ≠ "" ∧ '/' ∉ piece.toList

theorem split_append_slash (first second : List Char) :
    split (first ++ '/' :: second) = split first ++ split second := by
  rw [split, split, split, Text.splitWhere_append_cons _ (by rfl), List.map_append]

theorem split_of_free {text : List Char} (free : '/' ∉ text) :
    split text = [String.ofList text] := by
  rw [split, Text.splitWhere_of_free free]
  rfl

theorem free_of_mem_split {text : List Char} {piece : String} (member : piece ∈ split text) :
    '/' ∉ piece.toList := by
  obtain ⟨stretch, inside, rfl⟩ := List.mem_map.mp member
  intro slash
  rw [String.toList_ofList] at slash
  simpa using Text.splitWhere_free (· == '/') text stretch inside '/' slash

theorem split_intercalate {pieces : List String} (nonempty : pieces ≠ [])
    (free : ∀ piece ∈ pieces, '/' ∉ piece.toList) :
    split ("/".intercalate pieces).toList = pieces := by
  have stretches : (pieces.map String.toList).map String.ofList = pieces := by
    simp [Function.comp_def]
  rw [split, Text.splitWhere_eq_splitOnP, String.toList_intercalate]
  have apart : ∀ stretch ∈ pieces.map String.toList, '/' ∉ stretch := by simpa using free
  have cut := List.splitOn_intercalate '/' apart (by simpa using nonempty)
  rw [List.splitOn_eq_splitOnP] at cut
  rw [show "/".toList = ['/'] from rfl, cut, stretches]

theorem intercalate_split (text : List Char) :
    "/".intercalate (split text) = String.ofList text := by
  rw [← String.toList_inj, String.toList_intercalate, String.toList_ofList, split,
    Text.splitWhere_eq_splitOnP, List.map_map, show String.toList ∘ String.ofList = id by
      funext list
      simp]
  have whole : ['/'].intercalate (text.splitOn '/') = text := List.intercalate_splitOn '/'
  simpa [List.splitOn_eq_splitOnP] using whole

theorem isPiece_of_mem_pieces {path : Path} {piece : String} (member : piece ∈ path.pieces) :
    IsPiece piece := by
  obtain ⟨inside, written⟩ := List.mem_filter.mp member
  exact ⟨by simpa using written, free_of_mem_split inside⟩

theorem IsPiece.isName {piece : String} (proper : IsPiece piece) (notHere : piece ≠ ".")
    (notAbove : piece ≠ "..") : isName piece = true :=
  isName_iff.mpr ⟨proper.1, proper.2, notHere, notAbove⟩

theorem pieces_slash (first second : String) :
    (Path.mk (first ++ "/" ++ second)).pieces =
      (Path.mk first).pieces ++ (Path.mk second).pieces := by
  simp only [pieces, String.toList_append, show "/".toList = ['/'] from rfl, List.append_assoc,
    List.singleton_append]
  rw [split_append_slash, List.filter_append]

theorem pieces_of_isName {name : String} (proper : isName name = true) :
    (Path.mk name).pieces = [name] := by
  obtain ⟨present, free, -, -⟩ := isName_iff.mp proper
  simp [pieces, split_of_free free, present]

theorem isAbsolute_of_isName {name : String} (proper : isName name = true) :
    (Path.mk name).isAbsolute = false := by
  obtain ⟨-, free, -, -⟩ := isName_iff.mp proper
  cases text : name.toList with
  | nil => simp [isAbsolute, text]
  | cons c rest =>
    have other : c ≠ '/' := by
      rintro rfl
      exact free (by simp [text])
    simpa [isAbsolute, text] using other

theorem isAbsolute_slash {dir : String} (holder : isName dir = true) (rest : String) :
    (Path.mk (dir ++ "/" ++ rest)).isAbsolute = false := by
  obtain ⟨present, -, -, -⟩ := isName_iff.mp holder
  have alone := isAbsolute_of_isName holder
  obtain ⟨c, later, text⟩ := List.exists_cons_of_ne_nil (l := dir.toList) (by simpa using present)
  simpa [isAbsolute, text] using alone

theorem endsInSlash_of_isName (front : String) {name : String} (proper : isName name = true) :
    (Path.mk (front ++ name)).endsInSlash = false := by
  obtain ⟨present, free, -, -⟩ := isName_iff.mp proper
  have found := List.getLast?_eq_some_getLast (l := name.toList) (by simpa using present)
  have other : name.toList.getLast (by simpa using present) ≠ '/' := by
    intro slash
    exact free (slash ▸ List.getLast_mem _)
  simp [endsInSlash, String.toList_append, List.getLast?_append, found, other]

theorem join_eq {left : Path} (written : left.isEmpty = false) :
    ∃ start, (left.text = start ∧ start ≠ "" ∨ left.text = start ++ "/") ∧
      ∀ right : Path, right.isAbsolute = false →
        left.join right = ⟨start ++ "/" ++ right.text⟩ := by
  have opened : left.text ≠ "" := by simpa [isEmpty] using written
  by_cases ending : left.endsInSlash = true
  · have last : left.text.toList.getLast? = Option.some '/' := by
      simpa [endsInSlash] using ending
    obtain ⟨front, whole⟩ := List.getLast?_eq_some_iff.mp last
    have text : left.text = String.ofList front ++ "/" := by
      rw [← String.toList_inj, whole]
      simp
    refine ⟨String.ofList front, Or.inr text, ?_⟩
    intro right relative
    simp [join, relative, ending, ← text]
  · refine ⟨left.text, Or.inl ⟨rfl, opened⟩, ?_⟩
    intro right relative
    simp [join, relative, written, ending]

theorem pieces_join {left right : Path} (written : left.isEmpty = false)
    (relative : right.isAbsolute = false) :
    (left.join right).pieces = left.pieces ++ right.pieces := by
  rcases left with ⟨left⟩
  obtain ⟨start, ⟨rfl, -⟩ | rfl, joined⟩ := join_eq written
  · rw [joined right relative, pieces_slash]
  · have alone := pieces_slash start ""
    rw [String.append_empty] at alone
    rw [joined right relative, pieces_slash, alone, show (Path.mk "").pieces = [] by decide,
      List.append_nil]

theorem isAbsolute_join {left right : Path} (written : left.isEmpty = false)
    (relative : right.isAbsolute = false) : (left.join right).isAbsolute = left.isAbsolute := by
  rcases left with ⟨left⟩
  obtain ⟨start, ⟨rfl, opened⟩ | rfl, joined⟩ := join_eq written
  · have first : left.toList ≠ [] := by simpa using opened
    obtain ⟨c, rest, text⟩ := List.exists_cons_of_ne_nil first
    simp [joined right relative, isAbsolute, text]
  · rw [joined right relative]
    cases text : start.toList <;> simp [isAbsolute, text]

theorem isEmpty_join {left right : Path} (written : left.isEmpty = false)
    (relative : right.isAbsolute = false) : (left.join right).isEmpty = false := by
  obtain ⟨start, -, joined⟩ := join_eq written
  simp [joined right relative, isEmpty]

theorem mem_properPieces {path : Path} {piece : String} (member : piece ∈ path.properPieces) :
    piece ∈ path.pieces := by
  unfold properPieces at member
  split at member
  · cases member
  · next first rest cut =>
    rw [cut]
    split at member
    · exact List.mem_cons_of_mem first (List.mem_filter.mp member).1
    · rcases List.mem_cons.mp member with rfl | later
      · simp
      · exact List.mem_cons_of_mem first (List.mem_filter.mp later).1

theorem proper_properPieces (path : Path) : proper path.properPieces = path.names := by
  have twice : ∀ pieces, proper (pieces.filter (· ≠ ".")) = proper pieces := by
    intro pieces
    simp [proper, List.filter_filter]
  unfold properPieces
  rw [names]
  split
  · next empty => rw [empty]
  · next first rest cut =>
    rw [cut]
    split
    · next idle => rw [idle.1, proper_here, twice]
    · by_cases here : first = "."
      · rw [here, proper_here, proper_here, twice]
      · rw [proper_cons here, proper_cons here, twice]

theorem mem_beginnings {α : Type} {list front : List α} :
    front ∈ beginnings list ↔ front ≠ [] ∧ front <+: list := by
  induction list generalizing front with
  | nil => simp [beginnings]
  | cons a rest ih =>
    rw [beginnings, List.mem_cons, List.mem_map]
    constructor
    · rintro (rfl | ⟨shorter, inside, rfl⟩)
      · exact ⟨by simp, rest, rfl⟩
      · exact ⟨by simp, List.cons_prefix_cons.mpr ⟨rfl, (ih.mp inside).2⟩⟩
    · rintro ⟨nonempty, prefixed⟩
      obtain ⟨b, shorter, rfl⟩ := List.exists_cons_of_ne_nil nonempty
      obtain ⟨rfl, onward⟩ := List.cons_prefix_cons.mp prefixed
      by_cases alone : shorter = []
      · exact Or.inl (by rw [alone])
      · exact Or.inr ⟨shorter, ih.mpr ⟨alone, onward⟩, rfl⟩

theorem mem_above {path : Path} {front : List String} (member : front ∈ path.above) :
    (∀ piece ∈ front, piece ∈ path.pieces) ∧ proper front <+: path.names := by
  obtain ⟨-, shorter⟩ := mem_beginnings.mp (List.mem_reverse.mp member)
  have prefixed := shorter.trans (List.dropLast_prefix path.properPieces)
  constructor
  · intro piece inside
    exact mem_properPieces (prefixed.subset inside)
  · rw [← proper_properPieces]
    exact prefixed.filter _

theorem check_iff {path : Path} :
    path.check = .ok () ↔
      '\x00' ∉ path.text.toList ∧ path.text.utf8ByteSize ≤ maxBytes := by
  unfold check
  split
  · next found =>
    have held : '\x00' ∈ path.text.toList := by simpa using found
    simp [held]
  · next free =>
    split
    · next long => simpa using fun _ => long
    · next short => simpa using ⟨by simpa using free, Nat.le_of_not_lt short⟩

theorem check_of_longer {front : String} (back : String)
    (passed : (Path.mk (front ++ back)).check = .ok ()) : (Path.mk front).check = .ok () := by
  obtain ⟨free, short⟩ := check_iff.mp passed
  simp only [String.toList_append, List.mem_append, not_or] at free
  simp only [String.utf8ByteSize_append] at short
  exact check_iff.mpr ⟨free.1, by simp only; omega⟩

theorem lead_append {text : List Char} (written : text ≠ []) (rest : List Char) :
    lead (text ++ '/' :: rest) = ((lead text).1, (lead text).2 ++ '/' :: rest) := by
  fun_cases lead text with
  | case1 rest => rfl
  | case2 => rfl
  | case3 rest => rfl
  | case4 text noSlash noDot noDotSlash =>
    obtain ⟨c, after, rfl⟩ := List.exists_cons_of_ne_nil written
    by_cases dot : c = '.'
    · subst dot
      cases after with
      | nil => exact absurd rfl (noDot)
      | cons d after =>
        have other : d ≠ '/' := by
          rintro rfl
          exact noDotSlash after rfl
        simp [lead, other]
    · have other : c ≠ '/' := by
        rintro rfl
        exact noSlash after rfl
      simp [lead, dot, other]

theorem lead_text (text : List Char) : (lead text).1.toList ++ (lead text).2 = text := by
  fun_cases lead text <;> simp [show "/".toList = ['/'] from rfl, show ".".toList = ['.'] from rfl]

theorem dropIdle_append {name : String} (proper : isName name = true) (pieces : List String) :
    dropIdle (pieces ++ [name]) = pieces ++ [name] := by
  obtain ⟨present, -, notHere, -⟩ := isName_iff.mp proper
  have busy : isIdle name = false := by simp [isIdle, present, notHere]
  simp [dropIdle, busy]

/-- The path without the idle pieces that it may end in. -/
def trim (text : List Char) : Path :=
  ⟨(lead text).1 ++ "/".intercalate (dropIdle (split (lead text).2))⟩

theorem parent?_slash {front : String} (written : front ≠ "") {name : String}
    (proper : isName name = true) :
    (Path.mk (front ++ "/" ++ name)).parent? = some (trim front.toList) := by
  obtain ⟨-, free, -, -⟩ := isName_iff.mp proper
  have nonempty : front.toList ≠ [] := by simpa using written
  have cut : lead (front ++ "/" ++ name).toList =
      ((lead front.toList).1, (lead front.toList).2 ++ '/' :: name.toList) := by
    rw [String.toList_append, String.toList_append, List.append_assoc]
    exact lead_append nonempty name.toList
  have names : dropIdle (split ((lead front.toList).2 ++ '/' :: name.toList)) =
      split (lead front.toList).2 ++ [name] := by
    rw [split_append_slash, split_of_free free, String.ofList_toList]
    exact dropIdle_append proper _
  simp only [parent?, cut]
  rw [names]
  split
  · next unslashed => simp at unslashed
  · next found => rw [List.dropLast_concat, trim]

theorem parent?_slash_of_isName {start last name : String} (ends : isName last = true)
    (proper : isName name = true) :
    (Path.mk (start ++ "/" ++ last ++ "/" ++ name)).parent? = some ⟨start ++ "/" ++ last⟩ := by
  obtain ⟨-, free, -, -⟩ := isName_iff.mp ends
  have cut : ∃ pieces, split (lead (start ++ "/" ++ last).toList).2 = pieces ++ [last] := by
    by_cases root : start = ""
    · subst root
      refine ⟨[], ?_⟩
      have alone : lead ("" ++ "/" ++ last).toList = ("/", last.toList) := by
        simp [lead, show "/".toList = ['/'] from rfl]
      rw [alone, split_of_free free, String.ofList_toList]
      rfl
    · have nonempty : start.toList ≠ [] := by simpa using root
      refine ⟨split (lead start.toList).2, ?_⟩
      rw [String.toList_append, String.toList_append, List.append_assoc,
        show "/".toList ++ last.toList = '/' :: last.toList from rfl, lead_append nonempty,
        split_append_slash, split_of_free free, String.ofList_toList]
  obtain ⟨pieces, cut⟩ := cut
  have written : start ++ "/" ++ last ≠ "" := by
    intro same
    have same := congrArg String.toList same
    simp [show "/".toList = ['/'] from rfl] at same
  rw [parent?_slash written proper, trim, cut, dropIdle_append ends, ← cut, intercalate_split]
  have whole := congrArg String.ofList (lead_text (start ++ "/" ++ last).toList)
  rw [String.ofList_append, String.ofList_toList, String.ofList_toList] at whole
  rw [whole]

theorem filter_dropWhile {α : Type} (idle : α → Bool) (list : List α) :
    (list.dropWhile idle).filter (!idle ·) = list.filter (!idle ·) := by
  induction list with
  | nil => rfl
  | cons a rest ih =>
    by_cases first : idle a = true
    · rw [List.dropWhile_cons_of_pos first, ih, List.filter_cons_of_neg (by simp [first])]
    · rw [List.dropWhile_cons_of_neg first]

theorem filter_dropIdle (pieces : List String) :
    (dropIdle pieces).filter (!isIdle ·) = pieces.filter (!isIdle ·) := by
  rw [dropIdle, List.filter_reverse, filter_dropWhile, List.filter_reverse, List.reverse_reverse]

theorem names_eq_filter_split (path : Path) :
    path.names = (split path.text.toList).filter (!isIdle ·) := by
  rw [names, proper, pieces, List.filter_filter]
  apply List.filter_congr
  intro piece _
  by_cases here : piece = "." <;> simp [isIdle, here]

theorem names_intercalate {pieces : List String} (free : ∀ piece ∈ pieces, '/' ∉ piece.toList) :
    (Path.mk ("/".intercalate pieces)).names = pieces.filter (!isIdle ·) := by
  rw [names_eq_filter_split]
  by_cases empty : pieces = []
  · subst empty
    rfl
  · rw [split_intercalate empty free]

theorem names_slash (first second : String) :
    (Path.mk (first ++ "/" ++ second)).names = (Path.mk first).names ++ (Path.mk second).names := by
  rw [names, pieces_slash, proper_append, names, names]

theorem mem_of_mem_dropIdle {piece : String} {pieces : List String}
    (member : piece ∈ dropIdle pieces) : piece ∈ pieces := by
  rw [dropIdle, List.mem_reverse] at member
  simpa using (List.dropWhile_sublist _).subset member

theorem names_trimmed (text : List Char) :
    (Path.mk ("/".intercalate (dropIdle (split text)))).names =
      (split text).filter (!isIdle ·) := by
  rw [names_intercalate, filter_dropIdle]
  intro piece member
  exact free_of_mem_split (mem_of_mem_dropIdle member)

theorem split_slash (text : List Char) : split ('/' :: text) = "" :: split text :=
  split_append_slash [] text

theorem dropIdle_cons (piece : String) (pieces : List String) :
    dropIdle (piece :: pieces) =
      if dropIdle pieces = [] ∧ isIdle piece = true then [] else piece :: dropIdle pieces := by
  rw [dropIdle, List.reverse_cons, List.dropWhile_append]
  by_cases emptied : pieces.reverse.dropWhile isIdle = []
  · have rest : dropIdle pieces = [] := by rw [dropIdle, emptied, List.reverse_nil]
    by_cases idle : isIdle piece = true <;> simp [emptied, rest, idle]
  · simp [emptied, dropIdle]

theorem names_here : (Path.mk ".").names = [] := by
  decide

theorem names_trim (text : List Char) :
    (trim text).names = (Path.mk (String.ofList text)).names := by
  have known := names_eq_filter_split (Path.mk (String.ofList text))
  rw [String.toList_ofList] at known
  rw [known, trim]
  fun_cases lead text with
  | case1 rest =>
    have below := names_slash "" ("/".intercalate (dropIdle (split rest)))
    rw [String.empty_append] at below
    rw [below, names_trimmed, split_slash]
    rfl
  | case2 => rfl
  | case3 rest =>
    have alone : split ('.' :: '/' :: rest) = "." :: split rest := split_append_slash ['.'] rest
    rw [alone, split_slash, dropIdle_cons]
    split
    · next cut =>
      have gone := filter_dropIdle (split rest)
      rw [cut.1] at gone
      rw [List.filter_cons_of_neg (by decide), ← gone, String.intercalate_nil, String.append_empty]
      exact names_here
    · next busy =>
      have below : dropIdle (split rest) ≠ [] := fun idle => busy ⟨idle, by decide⟩
      rw [String.intercalate_cons_of_ne_nil below, String.empty_append, ← String.append_assoc,
        names_slash, names_here, names_trimmed, List.filter_cons_of_neg (by decide),
        List.nil_append]
  | case4 text noSlash noDot noDotSlash =>
    rw [String.empty_append, names_trimmed]

theorem dropIdle_split {c : Char} {rest : List Char} (noSlash : c ≠ '/')
    (noDot : c :: rest ≠ ['.']) (noDotSlash : ∀ after, c :: rest ≠ '.' :: '/' :: after) :
    ∃ piece pieces after, dropIdle (split (c :: rest)) = piece :: pieces ∧
      isIdle piece = false ∧ piece.toList = c :: after := by
  obtain ⟨stretch, stretches, cut⟩ := List.exists_cons_of_ne_nil
    (Text.splitWhere_ne_nil (· == '/') rest)
  have first : split (c :: rest) = String.ofList (c :: stretch) :: stretches.map String.ofList := by
    simp [split, Text.splitWhere, noSlash, cut]
  have busy : isIdle (String.ofList (c :: stretch)) = false := by
    have whole : c :: stretch ≠ ['.'] := by
      intro dot
      obtain ⟨rfl, rfl⟩ := List.cons.inj dot
      cases rest with
      | nil => exact noDot rfl
      | cons d after =>
        by_cases slash : d = '/'
        · exact noDotSlash after (by rw [slash])
        · obtain ⟨piece, pieces, below⟩ := List.exists_cons_of_ne_nil
            (Text.splitWhere_ne_nil (· == '/') after)
          simp [Text.splitWhere, slash, below] at cut
    have other : String.ofList (c :: stretch) ≠ "." := by
      intro dot
      have dot := congrArg String.toList dot
      rw [String.toList_ofList] at dot
      exact whole dot
    simp only [isIdle, Bool.or_eq_false_iff]
    exact ⟨by simp, by simpa using other⟩
  refine ⟨String.ofList (c :: stretch), dropIdle (stretches.map String.ofList), stretch, ?_, busy,
    ?_⟩
  · rw [first, dropIdle_cons, if_neg]
    rintro ⟨-, idle⟩
    rw [busy] at idle
    exact absurd idle (by decide)
  · rw [String.toList_ofList]

theorem head?_trim (text : List Char) : (trim text).text.toList.head? = text.head? := by
  rw [trim]
  fun_cases lead text with
  | case1 rest => simp
  | case2 => decide
  | case3 rest => simp
  | case4 text noSlash noDot noDotSlash =>
    cases text with
    | nil => decide
    | cons c rest =>
      have apart : c ≠ '/' := by
        rintro rfl
        exact noSlash rest rfl
      obtain ⟨piece, pieces, after, names, -, first⟩ := dropIdle_split apart noDot noDotSlash
      simp only [names, String.empty_append]
      cases pieces with
      | nil => simp [first]
      | cons next pieces => simp [first]

theorem isEmpty_trim {text : List Char} (written : text ≠ []) : (trim text).isEmpty = false := by
  have head := head?_trim text
  obtain ⟨c, rest, rfl⟩ := List.exists_cons_of_ne_nil written
  simp only [isEmpty, String.isEmpty_eq_false_iff]
  intro empty
  rw [empty] at head
  simp at head

theorem intercalate_front (first second : List String) :
    ∃ back, "/".intercalate (first ++ second) = "/".intercalate first ++ back := by
  by_cases empty : second = []
  · exact ⟨"", by simp [empty]⟩
  · by_cases start : first = []
    · exact ⟨"/".intercalate second, by simp [start]⟩
    · refine ⟨"/" ++ "/".intercalate second, ?_⟩
      rw [String.intercalate_append_of_ne_nil start empty, String.append_assoc]

theorem text_trim (text : List Char) : ∃ back, String.ofList text = (trim text).text ++ back := by
  obtain ⟨idle, cut⟩ := List.dropWhile_suffix isIdle (l := (split (lead text).2).reverse)
  have whole : split (lead text).2 = dropIdle (split (lead text).2) ++ idle.reverse := by
    rw [dropIdle, ← List.reverse_append, cut, List.reverse_reverse]
  obtain ⟨back, longer⟩ := intercalate_front (dropIdle (split (lead text).2)) idle.reverse
  rw [← whole, intercalate_split] at longer
  refine ⟨back, ?_⟩
  rw [trim, String.append_assoc, ← longer, ← String.toList_inj]
  simpa using (lead_text text).symm

theorem parent?_root {name : String} (proper : isName name = true) :
    (Path.mk ("" ++ "/" ++ name)).parent? = some ⟨"/"⟩ := by
  obtain ⟨-, free, -, -⟩ := isName_iff.mp proper
  have cut : lead ("" ++ "/" ++ name).toList = ("/", name.toList) := by
    simp [lead, show "/".toList = ['/'] from rfl]
  have alone : dropIdle (split name.toList) = [name] := by
    rw [split_of_free free, String.ofList_toList]
    exact dropIdle_append proper []
  simp only [parent?, cut]
  rw [alone]
  rfl

/-- What holds a name in a directory is the directory, however its path was written. -/
theorem parent?_join {left : Path} (written : left.isEmpty = false) {name : String}
    (proper : isName name = true) :
    ∃ parent : Path, (left.join ⟨name⟩).parent? = some parent ∧ parent.names = left.names ∧
      parent.isAbsolute = left.isAbsolute ∧ parent.isEmpty = false ∧
      ∃ back, (left.join ⟨name⟩).text = parent.text ++ back := by
  rcases left with ⟨left⟩
  obtain ⟨start, shape, joined⟩ := join_eq written
  have here : (Path.mk left).names = (Path.mk start).names := by
    rcases shape with ⟨rfl, -⟩ | rfl
    · rfl
    · have alone := names_slash start ""
      rw [String.append_empty, show (Path.mk "").names = [] by decide, List.append_nil] at alone
      exact alone
  rw [joined _ (isAbsolute_of_isName proper)]
  by_cases root : start = ""
  · subst root
    rcases shape with ⟨-, absurd⟩ | rfl
    · exact (absurd rfl).elim
    · exact ⟨⟨"/"⟩, parent?_root proper, by decide, by decide, by decide, name, by simp⟩
  · have nonempty : start.toList ≠ [] := by simpa using root
    obtain ⟨back, whole⟩ := text_trim start.toList
    rw [String.ofList_toList] at whole
    refine ⟨trim start.toList, parent?_slash root proper, ?_, ?_, isEmpty_trim nonempty,
      back ++ "/" ++ name, ?_⟩
    · rw [names_trim, String.ofList_toList, here]
    · have first : left.toList.head? = start.toList.head? := by
        rcases shape with ⟨rfl, -⟩ | rfl
        · rfl
        · obtain ⟨c, rest, text⟩ := List.exists_cons_of_ne_nil nonempty
          simp [text]
      rw [isAbsolute, head?_trim, isAbsolute, first]
    · simp only [← String.append_assoc, ← whole]

theorem parent?_join_slash {left : Path} (written : left.isEmpty = false) {dir name : String}
    (holder : isName dir = true) (proper : isName name = true) :
    (left.join ⟨dir ++ "/" ++ name⟩).parent? = some (left.join ⟨dir⟩) ∧
      (left.join ⟨dir ++ "/" ++ name⟩).text = (left.join ⟨dir⟩).text ++ ("/" ++ name) := by
  obtain ⟨start, -, joined⟩ := join_eq written
  rw [joined _ (isAbsolute_slash holder name), joined _ (isAbsolute_of_isName holder)]
  have whole : (Path.mk (start ++ "/" ++ dir ++ "/" ++ name)).parent? =
      some ⟨start ++ "/" ++ dir⟩ := parent?_slash_of_isName holder proper
  exact ⟨by simpa only [String.append_assoc] using whole, by simp only [String.append_assoc]⟩

end Path

end ModelRepositories
