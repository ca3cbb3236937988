import FaultDrill.Machine.Shell.Format
import FaultDrill.Machine.Shell.Pattern
import FaultDrill.Machine.Shell.Tools.Basic

/-!
# FaultDrill.Machine.Shell.Tools.Columns

Tools that work on characters and fields of lines, put lines in order, and compare files.
-/

namespace FaultDrill.Shell.Tools

open FaultDrill.Text

/-! ### Characters -/

/-- All characters in their order. -/
def allChars : List Char :=
  (List.range 256).map Char.ofNat

/-- The characters of a set with ranges, classes and escapes. -/
def charSet : Nat → List Char → List Char
  | 0, _ | _, [] => []
  | fuel + 1, s =>
    let classed : Option (String × List Char) := match s with
      | '[' :: ':' :: inner => Pattern.className? inner
      | _ => none
    match classed with
    | some (name, rest) => allChars.filter (Pattern.inClass name) ++ charSet fuel rest
    | none =>
      let unit := fun (s : List Char) => match s with
        | '\\' :: d :: rest =>
          if (Format.simpleEscape? d).isSome || d.isDigit then Format.escape (d :: rest)
          else (d, rest)
        | c :: rest => (c, rest)
        | [] => ('\\', [])
      let (first, rest) := unit s
      match rest with
      | '-' :: d :: after =>
        let (last, rest) := unit (d :: after)
        (List.range (last.toNat + 1 - first.toNat)).map (fun i => Char.ofNat (first.toNat + i)) ++
          charSet fuel rest
      | _ => first :: charSet fuel rest

/-- Characters of which no two in a row are the same one of a set. -/
def squeezedChars (set : List Char) : List Char → List Char
  | c :: d :: rest =>
    if c = d && set.contains c then squeezedChars set (d :: rest)
    else c :: squeezedChars set (d :: rest)
  | s => s

/-- Translates, deletes and squeezes characters. -/
def tr : Tool :=
  withOptions "tr"
    { flags := "cCdst", ordered := true
      long := [("complement", 'c'), ("delete", 'd'), ("squeeze-repeats", 's'),
        ("truncate-set1", 't')] } 1 fun o s =>
    let sets := o.operands.map fun w => charSet (w.length + 1) w.toList
    let complement := o.has 'c' || o.has 'C'
    let first := sets.headD []
    let first := if complement then allChars.filter fun c => !first.contains c else first
    let translates := !o.has 'd' && 1 < sets.length
    let wants := if o.has 'd' && !o.has 's' || o.has 's' && !o.has 'd' then 1 else 2
    match o.operands with
    | [] => refuse s "tr" "missing operand" 1
    | [w] =>
      if wants = 2 then
        let reason := if o.has 'd' then
          "Two strings must be given when both deleting and squeezing repeats."
          else "Two strings must be given when translating."
        refuse s "tr" s!"missing operand after {quoted w}\n{reason}" 1
      else work o first [] translates s
    | w :: second :: others =>
      match others, o.has 'd' && !o.has 's' with
      | extra :: _, _ => refuse s "tr" s!"extra operand {quoted extra}" 1
      | [], true =>
        refuse s "tr" (s!"extra operand {quoted second}\n" ++
          "Only one string may be given when deleting without squeezing repeats.") 1
      | [], false =>
        let set := charSet (second.length + 1) second.toList
        if set.isEmpty && translates && !o.has 't' && w ≠ "" then
          report s "tr" "when not truncating set1, string2 must be non-empty" 1
        else work o first set translates s
where
  /-- Changes the standard input. -/
  work (o : Options) (first second : List Char) (translates : Bool) (s : State) : State :=
    match s.readAll 0 with
    | (.error e, s) => report s "tr" s!"read error: {e.reason}" 1
    | (.ok content, s) =>
      let target := fun (i : Nat) => second[i]? <|> second.getLast?
      let changed := if o.has 'd' then content.filter fun c => !first.contains c
        else if translates then content.map fun c =>
          -- of a character that stands in a set twice, the last place counts
          match first.reverse.idxOf? c with
          | some i =>
            let i := first.length - 1 - i
            if o.has 't' && second.length ≤ i then c else (target i).getD c
          | none => c
        else content
      let changed := if o.has 's' then
        squeezedChars (if second.isEmpty then first else second) changed else changed
      emit s "tr" changed

/-! ### Parts of lines -/

/-- A range of positions. -/
structure Range where
  first : Nat
  last : Option Nat

/-- Whether a position is in a range. -/
def Range.holds (r : Range) (n : Nat) : Bool :=
  r.first ≤ n && (match r.last with
    | some last => n ≤ last
    | none => true)

/-- The ranges of a list with commas. -/
def ranges? (s : String) : Option (List Range) :=
  (s.toList.splitOn ',').mapM fun part =>
    match cut? '-' part with
    | some (low, high) =>
      if !(low ++ high).all Char.isDigit || (low ++ high).isEmpty then none
      else
        let first := if low.isEmpty then 1 else Decimal.value 0 low
        if first = 0 then none
        else some ⟨first, if high.isEmpty then none else some (Decimal.value 0 high)⟩
    | none =>
      if part.all Char.isDigit && !part.isEmpty && Decimal.value 0 part ≠ 0 then
        some ⟨Decimal.value 0 part, some (Decimal.value 0 part)⟩
      else none

/-- Shows parts of lines. -/
def cut : Tool :=
  withOptions "cut"
    { flags := "nsC", valued := "bcdfO"
      long := [("bytes", 'b'), ("characters", 'c'), ("delimiter", 'd'), ("fields", 'f'),
        ("only-delimited", 's'), ("complement", 'C'), ("output-delimiter", 'O')] } 1 fun o s =>
    let byFields := o.has 'f'
    let kinds := (['b', 'c', 'f'].filter o.has).length
    let list := ((o.value? 'f') <|> (o.value? 'c') <|> (o.value? 'b')).getD ""
    let delimiter := (o.value? 'd').getD "\t"
    if kinds = 0 then refuse s "cut" "you must specify a list of bytes, characters, or fields" 1
    else if 1 < kinds then refuse s "cut" "only one list may be specified" 1
    else if 1 < delimiter.length then refuse s "cut" "the delimiter must be a single character" 1
    else if !byFields && o.has 'd' then
      refuse s "cut"
        "an input delimiter may be specified only when operating on fields" 1
    else
      match ranges? list with
      | none =>
        let unit := if byFields then "fields" else "byte/character positions"
        let message := if (list.toList.splitOn ',').any fun p => p = ['0'] then
            s!"{unit} are numbered from 1"
          else if byFields then s!"invalid field value {quoted list}"
          else s!"invalid byte/character position {quoted list}"
        refuse s "cut" message 1
      | some ranges =>
        let chosen := fun n => (ranges.any (·.holds n)) ≠ o.has 'C'
        let mark := delimiter.toList.headD '\x00'
        let between := ((o.value? 'O').map String.toList).getD (if byFields then [mark] else [])
        let shown := fun (line : List Char) =>
          if byFields then
            if !line.contains mark then if o.has 's' then [] else line ++ ['\n']
            else
              let fields := (line.splitOn mark).zipIdx.filterMap fun (f, i) =>
                if chosen (i + 1) then some f else none
              between.intercalate fields ++ ['\n']
          else
            (line.zipIdx.filterMap fun (c, i) => if chosen (i + 1) then some c else none) ++ ['\n']
        eachInput "cut" o.operands 1 (fun _ content s =>
          emit s "cut" ((linesOf content).1.flatMap shown)) s

/-- Breaks lines. -/
def fold : Tool :=
  withOptions "fold" { flags := "bs", valued := "w" } 1 fun o s =>
    let width := max 1 (((o.value? 'w').bind String.toNat?).getD 80)
    eachInput "fold" o.operands 1 (fun _ content s =>
      let (lines, ended) := linesOf content
      emit s "fold" (joinLines (lines.flatMap fun line =>
        pieces width (o.has 's') (line.length + 1) line) ended)) s
where
  /-- The pieces of a line, which end after a blank if they can. -/
  pieces (width : Nat) (atBlanks : Bool) : Nat → List Char → List (List Char)
    | 0, line => [line]
    | fuel + 1, line =>
      if line.length ≤ width then [line]
      else
        let piece := line.take width
        let kept := (piece.reverse.dropWhile (· ≠ ' ')).reverse
        let piece := if atBlanks && !kept.isEmpty then kept else piece
        piece :: pieces width atBlanks fuel (line.drop piece.length)

/-- Puts lines of inputs beside one another. -/
def paste : Tool :=
  withOptions "paste" { flags := "s", valued := "d" } 1 fun o s =>
    let marks := ((o.value? 'd').getD "\t").toList
    let marks := (Format.unescape (marks.length + 1) marks).1
    let mark := fun i => if marks.isEmpty then [] else [marks.getD (i % marks.length) '\t']
    let (inputs, s) := (if o.operands.isEmpty then ["-"] else o.operands).foldl
      (fun (inputs, s) name => match inputOf s name with
        | (.ok content, s) => (inputs ++ [(linesOf content).1], s)
        | (.error e, s) => (inputs, report s "paste" s!"{nameText name}: {e.reason}" 1))
      (([] : List (List (List Char))), s)
    let row := fun (cells : List (List Char)) =>
      cells.zipIdx.flatMap (fun (cell, i) => (if i = 0 then [] else mark (i - 1)) ++ cell) ++ ['\n']
    if o.has 's' then emit s "paste" (inputs.flatMap row)
    else
      let height := inputs.foldl (fun n lines => max n lines.length) 0
      emit s "paste" ((List.range height).flatMap fun i =>
        row (inputs.map fun lines => lines.getD i []))

/-! ### Order -/

/-- A number at the start of a text as a fraction of a power of ten. -/
def decimalAt (s : List Char) : Int × Nat :=
  let s := s.dropWhile fun c => c = ' ' || c = '\t'
  let (negative, s) := match s with
    | '-' :: rest => (true, rest)
    | rest => (false, rest)
  let whole := s.takeWhile Char.isDigit
  let places := match s.drop whole.length with
    | '.' :: rest => rest.takeWhile Char.isDigit
    | _ => []
  let n : Int := Decimal.value 0 (whole ++ places)
  (if negative then -n else n, places.length)

/-- Whether one text comes before another one by its bytes. -/
def comesBefore : List Char → List Char → Bool
  | [], [] => false
  | [], _ => true
  | _, [] => false
  | a :: as, b :: bs => if a = b then comesBefore as bs else a < b

/-- How keys are compared. -/
structure Ordering where
  numeric : Bool := false
  descending : Bool := false
  folded : Bool := false
  skipsBlanks : Bool := false
  /-- Whether only letters, digits and blanks count. -/
  dictionary : Bool := false

/-- A part of a line by which lines are put in order. -/
structure SortKey where
  field : Nat := 1
  offset : Nat := 1
  last : Option (Nat × Nat) := none
  ordering : Option Ordering := none

/-- Compares keys: less than zero if the first one comes first. -/
def Ordering.compare (o : Ordering) (a b : List Char) : Int :=
  let prepare := fun (s : List Char) =>
    let s := if o.skipsBlanks then s.dropWhile fun c => c = ' ' || c = '\t' else s
    let s := if o.dictionary then s.filter fun c => c.isAlphanum || c = ' ' || c = '\t' else s
    if o.folded then s.map Char.toUpper else s
  let order : Int :=
    if o.numeric then
      let (m, i) := decimalAt a
      let (n, j) := decimalAt b
      let m := m * (Nat.pow 10 j : Nat)
      let n := n * (Nat.pow 10 i : Nat)
      if m < n then -1 else if n < m then 1 else 0
    else
      let a := prepare a
      let b := prepare b
      if comesBefore a b then -1 else if comesBefore b a then 1 else 0
  if o.descending then -order else order

/-- The options of letters. -/
def orderingOf (letters : List Char) : Option Ordering :=
  if letters.isEmpty then none
  else some
    { numeric := letters.contains 'n' || letters.contains 'g' || letters.contains 'h'
      descending := letters.contains 'r', folded := letters.contains 'f'
      skipsBlanks := letters.contains 'b', dictionary := letters.contains 'd' }

/-- A key from its text. -/
def SortKey.ofText? (s : String) : Option SortKey :=
  let position := fun (s : List Char) =>
    let field := s.takeWhile Char.isDigit
    let rest := s.drop field.length
    let (offset, rest) := match rest with
      | '.' :: rest => (rest.takeWhile Char.isDigit, rest.dropWhile Char.isDigit)
      | rest => ([], rest)
    (Decimal.value 0 field, Decimal.value 0 offset, rest)
  let (first, last) := match cut? ',' s.toList with
    | some (a, b) => (a, some b)
    | none => (s.toList, none)
  let (field, offset, letters) := position first
  let (last, letters) : Option (Nat × Nat) × List Char := match last with
    | some text =>
      let (field, offset, more) := position text
      (some (field, offset), letters ++ more)
    | none => (none, letters)
  if field = 0 || !letters.all Char.isAlpha then none
  else some ⟨field, max 1 offset, last, orderingOf letters⟩

/-- The fields of a line, with the separators before them if these are blanks. -/
def sortFields (mark : Option Char) (line : List Char) : List (List Char) :=
  match mark with
  | some c => line.splitOn c
  | none =>
    (line.foldl (fun (fields, within) c =>
      let isBlank := c = ' ' || c = '\t'
      match fields with
      | f :: rest => if isBlank && within then ([c] :: f :: rest, false)
        else ((c :: f) :: rest, within || !isBlank)
      | [] => ([[c]], !isBlank)) ((([] : List (List Char)), false))).1.reverse.map List.reverse

/-- The part of a line that a key is. -/
def SortKey.part (k : SortKey) (mark : Option Char) (line : List Char) : List Char :=
  let fields := sortFields mark line
  let separator := if mark.isSome then 1 else 0
  let start := fun n => (fields.take n).foldl (fun m f => m + f.length + separator) 0
  let first := start (k.field - 1) + (k.offset - 1)
  let last := match k.last with
    | some (field, 0) => start field - separator
    | some (field, offset) => start (field - 1) + offset
    | none => line.length
  (line.take last).drop first

/-- Shows lines in order, or says whether they are. The first comparison tells which lines are the
same, and the second one which of two comes first. -/
def showInOrder (o : Options) (byKeys whole : List Char → List Char → Int)
    (lines : List (List Char)) (s : State) : State :=
  if o.has 'c' || o.has 'C' then
    let name := o.operands.headD "-"
    let strict := o.has 'u'
    let wrong := (lines.zip (lines.drop 1)).zipIdx.find? fun ((a, b), _) =>
      let order := whole a b
      0 < order || strict && order = 0
    match wrong with
    | some ((_, b), i) =>
      if o.has 'C' then s.done 1
      else report s "sort" s!"{name}:{i + 2}: disorder: {String.ofList b}" 1
    | none => s
  else
    let sorted := lines.mergeSort fun a b => whole a b ≤ 0
    let sorted := if o.has 'u' then
      (sorted.foldl (fun kept line => match kept with
        | last :: _ => if byKeys last line = 0 then kept else line :: kept
        | [] => [line]) []).reverse
      else sorted
    match o.value? 'o' with
    | some path =>
      match s.files.write (s.pathOf path) ((unlines sorted).map Octets.byte) with
      | .ok t => s.withFiles t
      | .error e => report s "sort" s!"open failed: {nameText path}: {e.reason}" 2
    | none => emit s "sort" (unlines sorted)

/-- Puts lines in order. -/
def sort : Tool :=
  withOptions "sort"
    { flags := "nrufbdcCsghimzV", valued := "ktoST"
      long := [("numeric-sort", 'n'), ("reverse", 'r'), ("unique", 'u'), ("key", 'k'),
        ("field-separator", 't'), ("output", 'o'), ("ignore-case", 'f'), ("stable", 's'),
        ("check", 'c'), ("ignore-leading-blanks", 'b')] } 2 fun o s =>
    let general : Ordering :=
      { numeric := o.has 'n' || o.has 'g' || o.has 'h', descending := o.has 'r'
        folded := o.has 'f', skipsBlanks := o.has 'b', dictionary := o.has 'd' }
    let mark := (o.value? 't').bind (·.toList.head?)
    match (o.values 'k').mapM SortKey.ofText? with
    | none => report s "sort" "field number is zero: invalid field specification" 2
    | some keys =>
      let byKeys := fun (a b : List Char) =>
        if keys.isEmpty then general.compare a b
        else keys.foldl (fun order k =>
          if order ≠ 0 then order
          else (k.ordering.getD general).compare (k.part mark a) (k.part mark b)) 0
      let whole := fun (a b : List Char) =>
        let order := byKeys a b
        if order ≠ 0 || o.has 's' || o.has 'u' then order
        else Ordering.compare { descending := o.has 'r' } a b
      match inputLines (if o.operands.isEmpty then ["-"] else o.operands) s with
      | (.error (name, e), s) =>
        let what := if e = .isDirectory then "read failed" else "cannot read"
        report s "sort" s!"{what}: {nameText name}: {e.reason}" 2
      | (.ok lines, s) => showInOrder o byKeys whole lines s

/-- Lines of which those that are the same and stand together are one, with how many they are. -/
def runsOf (key : List Char → List Char) (lines : List (List Char)) : List (List Char × Nat) :=
  (lines.foldl (fun (runs : List (List Char × Nat)) line => match runs with
    | (first, n) :: rest =>
      if key first = key line then (first, n + 1) :: rest else (line, 1) :: (first, n) :: rest
    | [] => [(line, 1)]) []).reverse

/-- Shows equal lines once. -/
def uniq : Tool :=
  withOptions "uniq"
    { flags := "cdui", valued := "fsw"
      long := [("count", 'c'), ("repeated", 'd'), ("unique", 'u'), ("ignore-case", 'i')] } 1
    fun o s =>
    let number := fun c => ((o.value? c).bind String.toNat?).getD 0
    let skipField := fun (s : List Char) =>
      (s.dropWhile fun c => c = ' ' || c = '\t').dropWhile fun c => c ≠ ' ' && c ≠ '\t'
    let key := fun (line : List Char) =>
      let line := (List.range (number 'f')).foldl (fun s _ => skipField s) line
      let line := line.drop (number 's')
      let line := if o.has 'w' then line.take (number 'w') else line
      if o.has 'i' then line.map Char.toLower else line
    let (content, s) := joinedInput "uniq" (o.operands.take 1) 1 s
    let runs := (runsOf key (linesOf content).1).filter fun (_, n) =>
      if o.has 'd' && o.has 'u' then false
      else if o.has 'd' then 1 < n else if o.has 'u' then n = 1 else true
    let shown := runs.flatMap fun (line, n) =>
      (if o.has 'c' then rightAligned 7 n ++ [' '] else []) ++ line ++ ['\n']
    match o.operands.drop 1 with
    | [] => emit s "uniq" shown
    | path :: _ =>
      match s.files.write (s.pathOf path) (shown.map Octets.byte) with
      | .ok t => s.withFiles t
      | .error e => report s "uniq" s!"{nameText path}: {e.reason}" 1

/-! ### Comparing -/

/-- Compares two files byte by byte. -/
def cmp : Tool :=
  withOptions "cmp" { flags := "sl" } 2 fun o s =>
    match o.operands with
    | [] => refuse s "cmp" "missing operand after 'cmp'" 2
    | a :: rest =>
      let b := rest.headD "-"
      let silent := o.has 's'
      match inputOf s a with
      | (.error e, s) => if silent then s.done 2 else report s "cmp" s!"{nameText a}: {e.reason}" 2
      | (.ok x, s) =>
        match inputOf s b with
        | (.error e, s) =>
          if silent then s.done 2 else report s "cmp" s!"{nameText b}: {e.reason}" 2
        | (.ok y, s) =>
          let same := ((x.zip y).takeWhile fun (c, d) => c = d).length
          let line := (x.take same).count '\n' + 1
          if x = y then s
          else if silent then s.done 1
          else if same = x.length || same = y.length then
            let shorter := if same = x.length then a else b
            let whole := (x.take same).getLast? = some '\n'
            let place := if same = 0 then "which is empty"
              else if whole then s!"after byte {same}, line {line - 1}"
              else s!"after byte {same}, in line {line}"
            report s "cmp" s!"EOF on {nameText shorter} {place}" 1
          else (emitLine s "cmp" s!"{a} {b} differ: char {same + 1}, line {line}").done 1

/-- Shows which lines of two files in order are in both. -/
def comm : Tool :=
  withOptions "comm" { flags := "123" } 1 fun o s =>
    match o.operands with
    | [a, b] =>
      match inputOf s a with
      | (.error e, s) => report s "comm" s!"{nameText a}: {e.reason}" 1
      | (.ok x, s) =>
        match inputOf s b with
        | (.error e, s) => report s "comm" s!"{nameText b}: {e.reason}" 1
        | (.ok y, s) =>
          let xs := (linesOf x).1
          let ys := (linesOf y).1
          let shown := merge (xs.length + ys.length + 1) xs ys
          let column := fun (n : Nat) (line : List Char) =>
            if o.has (Char.ofNat ('0'.toNat + n)) then []
            else
              let tabs := (List.range (n - 1)).filter fun i =>
                !o.has (Char.ofNat ('1'.toNat + i))
              tabs.map (fun _ => '\t') ++ line ++ ['\n']
          emit s "comm" (shown.flatMap fun (n, line) => column n line)
    | [] => refuse s "comm" "missing operand" 1
    | [a] => refuse s "comm" s!"missing operand after {quoted a}" 1
    | _ :: _ :: c :: _ => refuse s "comm" s!"extra operand {quoted c}" 1
where
  /-- The lines of both files, with the column in which each is shown. -/
  merge : Nat → List (List Char) → List (List Char) → List (Nat × List Char)
    | 0, _, _ => []
    | _, [], ys => ys.map (2, ·)
    | _, xs, [] => xs.map (1, ·)
    | fuel + 1, x :: xs, y :: ys =>
      if x = y then (3, x) :: merge fuel xs ys
      else if comesBefore x y then (1, x) :: merge fuel xs (y :: ys)
      else (2, y) :: merge fuel (x :: xs) ys

/-- The lengths of the longest common parts of what follows each pair of places, by rows from the
end. -/
def commonLengths (xs ys : List (List Char)) : List (List Nat) :=
  xs.foldr (fun x rows =>
    let below := rows.headD []
    let row := (ys.zip (below.zip (below.drop 1))).foldr (fun (y, here, next) row =>
      (if x = y then next + 1 else max here (row.headD 0)) :: row) [0]
    row :: rows) [List.replicate (ys.length + 1) 0]

/-- What has to be done to one list of lines to get another one: lines that stay, go and come. -/
def editScript : Nat → List (List Char) → List (List Char) → List (List Nat) →
    List (Nat × List Char)
  | 0, _, _, _ => []
  | _, [], ys, _ => ys.map (2, ·)
  | _, xs, [], _ => xs.map (1, ·)
  | fuel + 1, x :: xs, y :: ys, rows =>
    if x = y then (0, x) :: editScript fuel xs ys ((rows.drop 1).map (·.drop 1))
    else
      let down := ((rows.drop 1).headD []).headD 0
      let right := ((rows.headD []).drop 1).headD 0
      if right ≤ down then (1, x) :: editScript fuel xs (y :: ys) (rows.drop 1)
      else (2, y) :: editScript fuel (x :: xs) ys (rows.map (·.drop 1))

/-- The changes of an edit script, each with the numbers of the lines before it. -/
def changes : Nat → Nat → Nat → List (Nat × List Char) →
    List (Nat × Nat × List (List Char) × List (List Char))
  | 0, _, _, _ | _, _, _, [] => []
  | fuel + 1, m, n, (0, _) :: rest => changes fuel (m + 1) (n + 1) rest
  | fuel + 1, m, n, script =>
    let part := script.takeWhile fun (k, _) => k ≠ 0
    let gone := part.filterMap fun (k, line) => if k = 1 then some line else none
    let come := part.filterMap fun (k, line) => if k = 2 then some line else none
    (m, n, gone, come) ::
      changes fuel (m + gone.length) (n + come.length) (script.drop part.length)

/-- Shows how files differ. -/
def diff : Tool :=
  withOptions "diff" { flags := "qsNarub", long := [("brief", 'q')] } 2 fun o s =>
    match o.operands with
    | [a, b] =>
      match inputOf s a with
      | (.error e, s) => report s "diff" s!"{nameText a}: {e.reason}" 2
      | (.ok x, s) =>
        match inputOf s b with
        | (.error e, s) => report s "diff" s!"{nameText b}: {e.reason}" 2
        | (.ok y, s) =>
          if x = y then
            if o.has 's' then emitLine s "diff" s!"Files {a} and {b} are identical" else s
          else if o.has 'q' then (emitLine s "diff" s!"Files {a} and {b} differ").done 1
          else
            let xs := (linesOf x).1
            let ys := (linesOf y).1
            let script := editScript (xs.length + ys.length + 1) xs ys (commonLengths xs ys)
            let span := fun (first count : Nat) =>
              if count ≤ 1 then Decimal.text first else s!"{first},{first + count - 1}"
            let sided := fun (sign : String) (lines : List (List Char)) =>
              lines.foldl (fun text line => text ++ sign ++ " " ++ String.ofList line ++ "\n") ""
            let text := (changes (script.length + 1) 0 0 script).foldl
              (fun text (m, n, gone, come) =>
                text ++
                  (if gone.isEmpty then s!"{m}a{span (n + 1) come.length}\n"
                  else if come.isEmpty then s!"{span (m + 1) gone.length}d{n}\n"
                  else s!"{span (m + 1) gone.length}c{span (n + 1) come.length}\n") ++
                  sided "<" gone ++
                  (if gone.isEmpty || come.isEmpty then "" else "---\n") ++ sided ">" come) ""
            (emit s "diff" text.toList).done 1
    | [] => refuse s "diff" "missing operand after 'diff'" 2
    | [a] => refuse s "diff" s!"missing operand after {quoted a}" 2
    | _ :: _ :: c :: _ => refuse s "diff" s!"extra operand {quoted c}" 2

end FaultDrill.Shell.Tools
