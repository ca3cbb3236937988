import FaultDrill.Machine.Shell.Format
import FaultDrill.Machine.Shell.Tools.Basic

/-!
# FaultDrill.Machine.Shell.Tools.Lines

Tools that show their inputs, or some of their lines, or numbers about them.
-/

namespace FaultDrill.Shell.Tools

open FaultDrill.Text

/-! ### Whole inputs -/

/-- Lines with numbers before them, in a column of six, and marks at their ends. -/
def decorated (numbers nonEmpty ends : Bool) :
    Nat → List (List Char) → List (List Char)
  | _, [] => []
  | n, line :: rest =>
    let counted := numbers && (!nonEmpty || !line.isEmpty)
    let text := (if counted then rightAligned 6 n ++ ['\t'] else []) ++ line ++
      (if ends then ['$'] else [])
    text :: decorated numbers nonEmpty ends (if counted then n + 1 else n) rest

/-- Lines of which no two in a row are empty. -/
def squeezed : List (List Char) → List (List Char)
  | [] :: [] :: rest => squeezed ([] :: rest)
  | line :: rest => line :: squeezed rest
  | [] => []

/-- Tabs and other characters that cannot be seen, in letters. -/
def visible (tabs others : Bool) (s : List Char) : List Char :=
  s.flatMap fun c =>
    if c = '\t' then if tabs then ['^', 'I'] else [c]
    else if c = '\n' || !others then [c]
    else
      let n := c.toNat
      let low := fun (n : Nat) =>
        if n < 32 then ['^', Char.ofNat (n + 64)]
        else if n = 127 then ['^', '?']
        else [Char.ofNat n]
      if n < 128 then low n else 'M' :: '-' :: low (n - 128)

/-- Shows inputs one after the other. -/
def cat : Tool :=
  withOptions "cat" { flags := "nbEsAeTtvu" } 1 fun o s =>
    let all := o.has 'A'
    let ends := o.has 'E' || all || o.has 'e'
    let tabs := o.has 'T' || all || o.has 't'
    let others := o.has 'v' || all || o.has 'e' || o.has 't'
    if o.given.all fun (c, _) => c = 'u' then
      eachInput "cat" o.operands 1 (fun _ content s => emit s "cat" content) s
    else
      let (content, s) := joinedInput "cat" o.operands 1 s
      let (lines, ended) := linesOf content
      let lines := if o.has 's' then squeezed lines else lines
      let lines := lines.map (visible tabs others)
      let numbers := o.has 'n' || o.has 'b'
      -- a last line without an end has no mark at its end either
      let shown := decorated numbers (o.has 'b') ends 1 lines
      let shown := if ended || !ends then shown
        else shown.dropLast ++ [(shown.getLastD []).dropLast]
      emit s "cat" (joinLines shown ended)

/-- Shows lines in descending order. -/
def tac : Tool :=
  withOptions "tac" {} 1 fun o s =>
    eachInput "tac" o.operands 1 (fun _ content s =>
      emit s "tac" (wholeLines content).reverse.flatten) s

/-- Shows the characters of lines in descending order. -/
def rev : Tool :=
  withOptions "rev" {} 1 fun o s =>
    eachInput "rev" o.operands 1 (fun _ content s =>
      let (lines, ended) := linesOf content
      emit s "rev" (joinLines (lines.map List.reverse) ended)) s

/-- Copies the standard input to the output and to files. -/
def tee : Tool :=
  withOptions "tee" { flags := "aip", long := [("append", 'a')] } 1 fun o s =>
    match s.readAll 0 with
    | (.error e, s) => report s "tee" s!"read error: {e.reason}" 1
    | (.ok content, s) =>
      let s := emit s "tee" content
      o.operands.foldl (fun s name =>
        let path := s.pathOf name
        let bytes := content.map Octets.byte
        let written := if o.has 'a' then s.files.append path bytes else s.files.write path bytes
        match written with
        | .ok t => s.withFiles t
        | .error e => report s "tee" s!"{nameText name}: {e.reason}" 1) s

/-! ### Starts and ends -/

/-- What is taken of an input: lines or bytes, so many or all but so many. -/
structure Portion where
  bytes : Bool := false
  /-- Whether the number counts from the other end. -/
  others : Bool := false
  count : Nat := 10

/-- The start of an input. -/
def Portion.start (p : Portion) (s : List Char) : List Char :=
  let units := if p.bytes then s.map fun c => [c] else wholeLines s
  (if p.others then units.take (units.length - p.count) else units.take p.count).flatten

/-- The end of an input. -/
def Portion.finish (p : Portion) (s : List Char) : List Char :=
  let units := if p.bytes then s.map fun c => [c] else wholeLines s
  (if p.others then units.drop (p.count - 1) else units.drop (units.length - p.count)).flatten

/-- The arguments with an old form of a count in its new one. -/
def modernCount : List String → List String
  | a :: rest =>
    match a.toList with
    | sign :: d :: digits =>
      if (sign = '-' || sign = '+') && (d :: digits).all Char.isDigit then
        "-n" :: (if sign = '+' then a else String.ofList (d :: digits)) :: rest
      else a :: rest
    | _ => a :: rest
  | [] => []

/-- Shows one end of each input, with its name if there are several. -/
def showEnds (tool : String) (other : Char) (part : Portion → List Char → List Char) : Tool :=
  fun arguments s =>
    let g : Grammar :=
      { flags := "qvfFz", valued := "nc"
        long := [("lines", 'n'), ("bytes", 'c'), ("quiet", 'q'), ("silent", 'q'),
          ("verbose", 'v'), ("follow", 'f')] }
    let run := fun (o : Options) (s : State) =>
      let chosen := o.given.reverse.find? fun (c, _) => c = 'n' || c = 'c'
      let portion? : Except String Portion := match chosen with
        | none => .ok {}
        | some (c, v) =>
          let (others, digits) := match v.toList with
            | sign :: rest =>
              if sign = other then (true, String.ofList rest)
              else if sign = '-' || sign = '+' then (false, String.ofList rest)
              else (false, v)
            | [] => (false, v)
          match count? digits with
          | some n => .ok { bytes := c = 'c', others := others, count := n }
          | none =>
            let unit := if c = 'c' then "bytes" else "lines"
            .error s!"invalid number of {unit}: {quoted v}"
      match portion? with
      | .error message => report s tool message 1
      | .ok portion =>
        let names := if o.operands.isEmpty then ["-"] else o.operands
        let titled := (1 < names.length || o.has 'v') && !o.has 'q'
        let heading := fun (first : Bool) (title : String) (s : State) =>
          if titled then
            emit s tool ((if first then [] else ['\n']) ++ s!"==> {title} <==\n".toList)
          else s
        let (s, _) := names.foldl (fun (s, first) name =>
          let title := if name = "-" then "standard input" else name
          let (answer, s) := inputOf s name
          match answer with
          | .error .isDirectory =>
            let s := heading first title s
            (report s tool s!"error reading {quoted title}: Is a directory" 1, false)
          | .error e =>
            (report s tool s!"cannot open {quoted name} for reading: {e.reason}" 1, first)
          | .ok content =>
            let s := heading first title s
            let shown := part portion content
            -- what has not been used of a file is left to others
            let s := if name = "-" && other = '-' then
              match s.descriptors.get? 0 with
              | some d =>
                { s with world := s.world.unread d.opening (content.length - shown.length) }
              | none => s
              else s
            (emit s tool shown, false)) (s, true)
        if o.has 'f' || o.has 'F' then s.expire else s
    withOptions tool g 1 run (modernCount arguments) s

/-- Shows the starts of inputs. -/
def head : Tool := showEnds "head" '-' Portion.start

/-- Shows the ends of inputs. -/
def tail : Tool := showEnds "tail" '+' Portion.finish

/-! ### Counts -/

/-- How many words a text has. -/
def wordCount (s : List Char) : Nat :=
  (s.foldl (fun (n, within) c =>
    if Number.isBlank c then (n, false) else (if within then n else n + 1, true))
    ((0, false) : Nat × Bool)).1

/-- The size of an input that is a file. -/
def fileSize? (s : State) (name : String) : Option Nat :=
  if name = "-" then
    match s.descriptors.get? 0 with
    | some d =>
      match s.world.opening d.opening with
      | .file place _ _ => some (s.world.contentAt place).length
      | _ => none
    | none => none
  else
    match s.find name with
    | .ok (.file content) => some content.length
    | _ => none

/-- Counts lines, words and bytes. -/
def wc : Tool :=
  withOptions "wc"
    { flags := "lwcmL"
      long := [("lines", 'l'), ("words", 'w'), ("bytes", 'c'), ("chars", 'm'),
        ("max-line-length", 'L')] } 1 fun o s =>
    let wanted := fun c => if o.given.isEmpty then ['l', 'w', 'c'].contains c else o.has c
    let kinds := ['l', 'w', 'm', 'c', 'L'].filter wanted
    let names := if o.operands.isEmpty then ["-"] else o.operands
    let sizes := names.map (fileSize? s)
    let width :=
      if names.length = 1 && kinds.length = 1 then 1
      else
        let total := sizes.foldl (fun n size => n + size.getD 0) 0
        let absent := names.any fun n => n ≠ "-" && (s.find n matches .error _)
        max (Decimal.write total).length
          (if sizes.any Option.isNone && !absent then 7 else 1)
    let row := fun (counts : List Nat) (name : String) =>
      joined " " (counts.map fun n => String.ofList (rightAligned width n)) ++
        (if name = "" then "" else " " ++ name)
    let measure := fun (content : List Char) => kinds.map fun
      | 'l' => content.count '\n'
      | 'w' => wordCount content
      | 'L' => (linesOf content).1.foldl (fun n line => max n line.length) 0
      | _ => content.length
    let zero := kinds.map fun _ => 0
    let (totals, s) := names.foldl (fun (totals, s) name =>
      let shown := if o.operands.isEmpty then "" else name
      match inputOf s name with
      | (.ok content, s) =>
        let counts := measure content
        ((totals.zip counts).zip kinds |>.map fun ((a, b), k) => if k = 'L' then max a b else a + b,
          emitLine s "wc" (row counts shown))
      | (.error e, s) =>
        let s := report s "wc" s!"{nameText name}: {e.reason}" 1
        (totals, if e = .isDirectory then (emitLine s "wc" (row zero shown)) else s)) (zero, s)
    if 1 < names.length then emitLine s "wc" (row totals "total") else s

/-- Numbers lines. -/
def nl : Tool :=
  withOptions "nl" { valued := "bwsvin" } 1 fun o s =>
    let (content, s) := joinedInput "nl" o.operands 1 s
    let (lines, _) := linesOf content
    let number := fun c (standard : Nat) => ((o.value? c).bind String.toNat?).getD standard
    let width := number 'w' 6
    let separator := (o.value? 's').getD "\t"
    let all := o.value? 'b' = some "a"
    let none_ := o.value? 'b' = some "n"
    let (_, shown) := lines.foldl (fun ((n : Nat), shown) line =>
      if !none_ && (all || !line.isEmpty) then
        let digits := Decimal.write n
        let fill := width - digits.length
        let column := match o.value? 'n' with
          | some "ln" => digits ++ List.replicate fill ' '
          | some "rz" => List.replicate fill '0' ++ digits
          | _ => List.replicate fill ' ' ++ digits
        (n + number 'i' 1, shown ++ column ++ separator.toList ++ line ++ ['\n'])
      else (n, shown ++ List.replicate (width + separator.length) ' ' ++ line ++ ['\n']))
      (number 'v' 1, ([] : List Char))
    emit s "nl" shown

/-! ### Bytes -/

/-- A byte as a character or as an escape. -/
def charForm (c : Char) : List Char :=
  match c.toNat with
  | 0 => ['\\', '0']
  | 7 => ['\\', 'a']
  | 8 => ['\\', 'b']
  | 9 => ['\\', 't']
  | 10 => ['\\', 'n']
  | 11 => ['\\', 'v']
  | 12 => ['\\', 'f']
  | 13 => ['\\', 'r']
  | n => if 32 ≤ n && n < 127 then [c] else inBase 8 3 n

/-- The names of characters without a form. -/
def controlNames : List String :=
  ["nul", "soh", "stx", "etx", "eot", "enq", "ack", "bel", "bs", "ht", "nl", "vt", "ff", "cr", "so",
    "si", "dle", "dc1", "dc2", "dc3", "dc4", "nak", "syn", "etb", "can", "em", "sub", "esc", "fs",
    "gs", "rs", "us", "sp"]

/-- How the units of a dump are shown: their size, the width of their column, and their texts. -/
structure UnitForm where
  size : Nat
  width : Nat
  text : List Char → List Char

/-- The number of bytes, the least significant one first. -/
def littleEndian (s : List Char) : Nat :=
  s.foldr (fun c n => c.toNat + 256 * n) 0

/-- The form of units by its type and size. -/
def UnitForm.ofType (type : Char) (size : Nat) : UnitForm :=
  let value := littleEndian
  let modulus := Nat.pow 256 size
  match type with
  | 'c' => ⟨1, 4, fun s => charForm (s.headD '\x00')⟩
  | 'a' => ⟨1, 4, fun s =>
      let n := (s.headD '\x00').toNat % 128
      if n = 127 then "del".toList else ((controlNames[n]?).map String.toList).getD [Char.ofNat n]⟩
  | 'x' => ⟨size, 2 * size + 1, fun s => inBase 16 (2 * size) (value s)⟩
  | 'o' =>
    let width := (Nat.toDigits 8 (modulus - 1)).length
    ⟨size, width + 1, fun s => inBase 8 width (value s)⟩
  | 'u' => ⟨size, (Decimal.write (modulus - 1)).length + 1, fun s => Decimal.write (value s)⟩
  | _ =>
    ⟨size, (Decimal.write (modulus / 2)).length + 2, fun s =>
      if modulus / 2 ≤ value s then '-' :: Decimal.write (modulus - value s)
      else Decimal.write (value s)⟩

/-- The units of a row. -/
def inUnits (size : Nat) : Nat → List Char → List (List Char)
  | 0, _ | _, [] => []
  | fuel + 1, s => s.take size :: inUnits size fuel (s.drop size)

/-- A row of a dump in one form. -/
def UnitForm.row (f : UnitForm) (s : List Char) : List Char :=
  (inUnits (max 1 f.size) s.length s).flatMap fun unit =>
    let text := f.text unit
    List.replicate (f.width - text.length) ' ' ++ text

/-- Rows of a dump. Equal rows after one another are shown as one, unless all are wanted. -/
def dumpRows (forms : List UnitForm) (address : Nat → List Char) (all : Bool) (width : Nat) :
    Nat → Nat → Option (List Char) → Bool → List Char → List Char
  | 0, _, _, _, _ => []
  | fuel + 1, offset, last, starred, s =>
    if s.isEmpty then
      let a := address offset
      if a.isEmpty then [] else a ++ ['\n']
    else
      let row := s.take width
      let rest := s.drop width
      if !all && last = some row && row.length = width then
        (if starred then [] else ['*', '\n']) ++
          dumpRows forms address all width fuel (offset + width) last true rest
      else
        let text := forms.zipIdx.flatMap fun (f, i) =>
          let a := address offset
          (if i = 0 then a else List.replicate a.length ' ') ++ f.row row ++ ['\n']
        text ++ dumpRows forms address all width fuel (offset + row.length) (some row) false rest

/-- The forms that a type names. -/
def formsOf : Nat → List Char → List UnitForm
  | 0, _ | _, [] => []
  | fuel + 1, c :: rest =>
    let digits := rest.takeWhile Char.isDigit
    let size := if digits.isEmpty then (if c = 'c' || c = 'a' then 1 else 4)
      else Decimal.value 0 digits
    .ofType c (max 1 (min 8 size)) :: formsOf fuel (rest.drop digits.length)

/-- Shows bytes as numbers or characters. -/
def od : Tool :=
  withOptions "od" { flags := "abcdoxvs", valued := "AtNjw" } 1 fun o s =>
    let (content, s) := joinedInput "od" o.operands 1 s
    let content := content.drop (((o.value? 'j').bind count?).getD 0)
    let content := match (o.value? 'N').bind count? with
      | some n => content.take n
      | none => content
    let forms := o.given.flatMap fun
      | ('t', v) => formsOf v.length v.toList
      | ('a', _) => [.ofType 'a' 1]
      | ('b', _) => [.ofType 'o' 1]
      | ('c', _) => [.ofType 'c' 1]
      | ('d', _) => [.ofType 'u' 2]
      | ('o', _) => [.ofType 'o' 2]
      | ('x', _) => [.ofType 'x' 2]
      | ('s', _) => [.ofType 'd' 2]
      | _ => []
    let forms := if forms.isEmpty then [.ofType 'o' 2] else forms
    let size := forms.foldl (fun n f => max n f.size) 1
    -- all forms take the width of the widest for the same number of bytes
    let share := forms.foldl (fun n f => max n (f.width * (size / max 1 f.size))) 0
    let forms := forms.map fun f => { f with width := share * f.size / size }
    let address := fun n => match o.value? 'A' with
      | some "n" => []
      | some "x" => inBase 16 6 n
      | some "d" => inBase 10 7 n
      | _ => inBase 8 7 n
    let width := ((o.value? 'w').bind String.toNat?).getD 16
    emit s "od" (dumpRows forms address (o.has 'v') (max 1 width) (content.length + 2) 0 none false
      content)

end FaultDrill.Shell.Tools
