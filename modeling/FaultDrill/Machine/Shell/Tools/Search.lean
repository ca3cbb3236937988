import FaultDrill.Machine.Shell.Regex
import FaultDrill.Machine.Shell.Tools.Basic

/-!
# FaultDrill.Machine.Shell.Tools.Search

Searching lines for regular expressions.
-/

namespace FaultDrill.Shell.Tools

open FaultDrill.Text

/-! ### Searching -/

/-- How lines are searched. -/
structure Query where
  expressions : List Regex
  folded : Bool
  inverted : Bool
  ok : Regex.Condition

/-- Whether a line is one that is looked for. -/
def Query.holds (q : Query) (line : List Char) : Bool :=
  (q.expressions.any fun r => (Regex.search? q.folded q.ok r [] none line).isSome) ≠ q.inverted

/-- The matches in a line that are not empty. -/
def Query.matched (q : Query) (line : List Char) : List (List Char) :=
  let r := match q.expressions with
    | [] => Regex.empty
    | r :: rest => rest.foldl Regex.either r
  (Regex.allMatches q.folded q.ok r line).filterMap fun
    | .found text _ => if text.isEmpty then none else some text
    | .char _ => none

/-- The lines that are shown around others: those with so many lines before and after them. Each
comes with its number and whether it is one that is looked for. -/
def withContext (before after : Nat) (lines : List (List Char × Bool)) :
    List (Nat × List Char × Bool) :=
  let hits := lines.zipIdx.filterMap fun ((_, hit), i) => if hit then some i else none
  lines.zipIdx.filterMap fun ((line, hit), i) =>
    if hit || hits.any fun h => h ≤ i + before && i ≤ h + after then some (i, line, hit) else none

/-- The files below directories among names, in the place of the directories. -/
def withFilesBelow (names : List String) (s : State) : List String :=
  names.flatMap fun name =>
    match s.find name, s.files.place (s.pathOf name) with
    | .ok .directory, .ok place =>
      s.files.entries.toList.filterMap fun (p, e) =>
        if e ≠ .directory && place.isPrefixOf p then
          let steps := Octets.ofText ("/".intercalate (p.drop place.length))
          some (if name = "" then steps else name ++ "/" ++ steps)
        else none
    | _, _ => [name]

/-- Shows the lines in which regular expressions occur. -/
def grepAs (tool : String) (extended fixed : Bool) : Tool :=
  withOptions tool
    { flags := "EFGPivcnlLqowxshHraIRz", valued := "efmABC"
      long := [("extended-regexp", 'E'), ("fixed-strings", 'F'), ("basic-regexp", 'G'),
        ("ignore-case", 'i'), ("invert-match", 'v'), ("count", 'c'), ("line-number", 'n'),
        ("files-with-matches", 'l'), ("files-without-match", 'L'), ("quiet", 'q'), ("silent", 'q'),
        ("only-matching", 'o'), ("word-regexp", 'w'), ("line-regexp", 'x'), ("no-messages", 's'),
        ("no-filename", 'h'), ("with-filename", 'H'), ("regexp", 'e'), ("max-count", 'm'),
        ("recursive", 'r'), ("text", 'a')] } 2
    fun o s =>
    let (patterns, files, s) : Option (List String) × List String × State :=
      if o.has 'e' || o.has 'f' then
        let (fromFiles, s) := (o.values 'f').foldl (fun (read, s) name =>
          match inputOf s name with
          | (.ok content, s) => (read ++ ((linesOf content).1.map String.ofList), s)
          | (.error e, s) => (read, report s tool s!"{name}: {e.reason}" 2)) ([], s)
        (some (o.values 'e' ++ fromFiles), o.operands, s)
      else
        match o.operands with
        | p :: rest => (some [p], rest, s)
        | [] => (none, [], s)
    match patterns with
    | none =>
      (s.complain (s!"Usage: {tool} [OPTION]... PATTERNS [FILE]...\n" ++
        s!"Try '{tool} --help' for more information.")).done 2
    | some patterns =>
      let parts := patterns.flatMap fun p => p.toList.splitOn '\n'
      let isExtended := (extended || o.has 'E' || o.has 'P') && !o.has 'G'
      let compile := fun p =>
        if fixed || o.has 'F' then .ok (Regex.ofLiteral p) else Regex.ofText isExtended p
      match parts.mapM compile with
      | .error fault => report s tool fault.message 2
      | .ok expressions =>
        let q : Query :=
          { expressions := expressions, folded := o.has 'i', inverted := o.has 'v'
            ok := if o.has 'x' then Regex.wholeText
              else if o.has 'w' then Regex.wholeWord else Regex.anywhere }
        let recursive := o.has 'r' || o.has 'R'
        let named := (1 < files.length || o.has 'H' || recursive) && !o.has 'h'
        let number := fun c => (o.value? c).bind String.toNat?
        let before := ((number 'B') <|> (number 'C')).getD 0
        let after := ((number 'A') <|> (number 'C')).getD 0
        let names := if files.isEmpty then (if recursive then withFilesBelow [""] s else ["-"])
          else if recursive then withFilesBelow files s
          else files
        let (found, failed, s) := names.foldl (fun (found, failed, s) name =>
          if found && o.has 'q' then (found, failed, s)
          else
            match inputOf s name with
            | (.error e, s) =>
              (found, true, if o.has 's' then s else s.complain s!"{tool}: {name}: {e.reason}")
            | (.ok content, s) =>
              let title := if name = "-" then "(standard input)" else name
              let label := fun (mark : Char) =>
                if named then title.toList ++ [mark] else []
              let lines := (linesOf content).1.map fun line => (line, q.holds line)
              let lines := match number 'm' with
                | some n =>
                  (lines.foldl (fun (kept, count) (line, hit) =>
                    if count = n then (kept, count)
                    else (kept ++ [(line, hit)], if hit then count + 1 else count))
                    (([] : List (List Char × Bool)), 0)).1
                | none => lines
              let count := (lines.filter (·.2)).length
              let hit := 0 < count
              let s :=
                if o.has 'q' then s
                else if o.has 'l' then if hit then emitLine s tool title else s
                else if o.has 'L' then if hit then s else emitLine s tool title
                else if o.has 'c' then
                  emit s tool (label ':' ++ Decimal.write count ++ ['\n'])
                else
                  let shown := withContext before after lines
                  let text := shown.zipIdx.flatMap fun ((i, line, hit), k) =>
                    let mark := if hit then ':' else '-'
                    let gap := match k with
                      | 0 => false
                      | k + 1 => (shown[k]?.map fun (j, _, _) => j + 1 < i).getD false
                    let head := label mark ++
                      (if o.has 'n' then Decimal.write (i + 1) ++ [mark] else [])
                    (if gap && (0 < before || 0 < after) then ['-', '-', '\n'] else []) ++
                      if o.has 'o' then
                        if o.has 'v' || !hit then []
                        else (q.matched line).flatMap fun m => head ++ m ++ ['\n']
                      else head ++ line ++ ['\n']
                  if content.contains '\x00' && !o.has 'a' then
                    if hit then s.complain s!"{tool}: {title}: binary file matches" else s
                  else emit s tool text
              (found || hit, failed, s)) (false, false, s)
        let found := if o.has 'L' then !found else found
        s.done (if failed && !(found && o.has 'q') then 2 else if found then 0 else 1)

/-- Searches with basic expressions. -/
def grep : Tool := grepAs "grep" false false

/-- Searches with extended expressions. -/
def egrep : Tool := grepAs "grep" true false

/-- Searches for texts. -/
def fgrep : Tool := grepAs "grep" false true

end FaultDrill.Shell.Tools
