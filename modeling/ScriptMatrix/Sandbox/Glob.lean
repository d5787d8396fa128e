import ScriptMatrix.Sandbox.Chars

/-!
# `ScriptMatrix.Sandbox.Glob`: patterns of names

In a pattern `*` stands for any text, `?` for any character, and brackets
for one of the characters between them. Where groups are known, a sign in
front of parentheses says how often what is between them may come. Every
character of a pattern may be quoted, and then stands for itself.

Matching follows all ways at once: a pattern leads from a place in a text
to the places where what it matches may end.
-/

set_option autoImplicit false

namespace ScriptMatrix.Sandbox

/-- A character of a pattern, and whether it is quoted. -/
abbrev GlobChar := Char × Bool

/-- What may stand between brackets. -/
inductive GlobItem where
  | range (low high : Char)
  | cls (p : Char → Bool)

/-- How often a group may come. -/
inductive GlobCount where
  | once
  | optional
  | some
  | any
  /-- Anything but what the group matches. -/
  | except
  deriving Repr, DecidableEq

/-- A part of a pattern. -/
inductive Glob where
  | char (c : Char)
  | one
  | many
  | set (negated : Bool) (items : List GlobItem)
  | group (count : GlobCount) (alternatives : List (List Glob))

/-- The classes of characters by name. -/
def globClasses : List (String × (Char → Bool)) := [
  ("alpha", isLetter),
  ("digit", isDigit),
  ("alnum", fun c => isLetter c || isDigit c),
  ("upper", fun c => 'A' ≤ c && c ≤ 'Z'),
  ("lower", fun c => 'a' ≤ c && c ≤ 'z'),
  ("space", isSpace),
  ("blank", isGap),
  ("punct", fun c => '!' ≤ c && c ≤ '~' && !isLetter c && !isDigit c),
  ("print", fun c => ' ' ≤ c && c ≤ '~'),
  ("graph", fun c => '!' ≤ c && c ≤ '~'),
  ("cntrl", fun c => c.toNat < 32 || c.toNat == 127),
  ("xdigit", fun c => (hexValue? c).isSome),
  ("word", isNameChar),
  ("ascii", fun c => c.toNat < 128)]

/-- Whether a character is among what is between brackets. -/
def GlobItem.has (fold : Bool) (c : Char) : GlobItem → Bool
  | .range low high =>
    (low ≤ c && c ≤ high) || (fold && ((low ≤ toLower c && toLower c ≤ high) ||
      (low ≤ toUpper c && toUpper c ≤ high)))
  | .cls p => p c || (fold && (p (toLower c) || p (toUpper c)))

namespace Glob

/-- The name of a class at the front of what is between brackets, and the
rest. -/
def className? (sign : Char) (cs : List GlobChar) : Option (Chars × List GlobChar) :=
  match cs with
  | ('[', false) :: (s, false) :: rest =>
    if s != sign then none
    else
      let name := rest.takeWhile fun c => c.1 != sign && c.1 != ']'
      match rest.drop name.length with
      | (s', _) :: (']', _) :: after =>
        if s' == sign && !name.isEmpty then some (name.map (·.1), after) else none
      | _ => none
  | _ => none

/-- Reads what is between brackets, up to the closing one. -/
def readItems : Nat → Bool → List GlobChar → Option (List GlobItem × List GlobChar)
  | 0, _, _ => none
  | fuel + 1, isFirst, cs =>
    let also := fun (item : GlobItem) (rest : List GlobChar) =>
      (readItems fuel false rest).map fun (items, after) => (item :: items, after)
    match className? ':' cs with
    | some (name, rest) =>
      also (.cls ((globClasses.lookup (String.ofList name)).getD fun _ => false)) rest
    | none =>
      match (className? '=' cs).orElse fun _ => className? '.' cs with
      | some (name, rest) => also (.cls fun c => name == [c]) rest
      | none =>
        match cs with
        | [] => none
        | (']', false) :: rest =>
          if isFirst then also (.range ']' ']') rest else some ([], rest)
        | c :: rest =>
          let (low, rest) := match c, rest with
            | ('\\', false), d :: more => (d.1, more)
            | _, _ => (c.1, rest)
          match rest with
          | ('-', false) :: high :: more =>
            if high == (']', false) then also (.range low low) rest
            else
              let (high, more) := match high, more with
                | ('\\', false), d :: others => (d.1, others)
                | _, _ => (high.1, more)
              also (.range low high) more
          | _ => also (.range low low) rest

/-- Reads brackets behind the opening one. In a pattern of names an
exclamation mark may stand for the sign that turns them around. -/
def readSet? (cs : List GlobChar) : Option (Glob × List GlobChar) :=
  let (negated, cs) := match cs with
    | ('!', false) :: rest | ('^', false) :: rest => (true, rest)
    | _ => (false, cs)
  (readItems (cs.length + 1) true cs).map fun (items, rest) => (.set negated items, rest)

/-- Reads the brackets of a regular expression behind the opening one, in
which no character hides another. -/
def readBrackets? (cs : List GlobChar) : Option (Glob × List GlobChar) :=
  let (negated, cs) := match cs with
    | ('^', false) :: rest => (true, rest)
    | _ => (false, cs)
  let shown := cs.map fun c => if c == ('\\', false) then ('\\', true) else c
  (readItems (cs.length + 1) true shown).map fun (items, rest) =>
    (.set negated items, cs.drop (cs.length - rest.length))

/-- What a sign in front of a group says. -/
def countOf? : Char → Option GlobCount
  | '@' => some .once
  | '?' => some .optional
  | '+' => some .some
  | '*' => some .any
  | '!' => some .except
  | _ => none

/-- The alternatives of a group up to its end, and the rest. -/
def alternatives? : Nat → List GlobChar → Option (List (List GlobChar) × List GlobChar)
  | _, [] => none
  | depth, c :: rest =>
    let also := fun (depth : Nat) =>
      match alternatives? depth rest with
      | some (front :: others, after) => some ((c :: front) :: others, after)
      | _ => none
    if c == ('(', false) then also (depth + 1)
    else if c == (')', false) then
      match depth with
      | 0 => some ([[]], rest)
      | d + 1 => also d
    else if c == ('|', false) && depth == 0 then
      (alternatives? depth rest).map fun (others, after) => ([] :: others, after)
    else also depth

/-- Reads a pattern; `groups` says whether groups are known. -/
def read (groups : Bool) : Nat → List GlobChar → List Glob
  | 0, _ => []
  | fuel + 1, cs =>
    match cs with
    | [] => []
    | (c, true) :: rest => .char c :: read groups fuel rest
    | (c, false) :: rest =>
      let group := match rest with
        | ('(', false) :: inside =>
          if groups then
            (countOf? c).bind fun count => (alternatives? 0 inside).map fun found => (count, found)
          else none
        | _ => none
      match group with
      | some (count, bodies, after) =>
        .group count (bodies.map (read groups fuel)) :: read groups fuel after
      | none =>
        if c == '*' then .many :: read groups fuel (rest.dropWhile (· == ('*', false)))
        else if c == '?' then .one :: read groups fuel rest
        else if c == '\\' then
          match rest with
          | d :: more => .char d.1 :: read groups fuel more
          | [] => [.char '\\']
        else if c == '[' then
          match readSet? rest with
          | some (brackets, after) => brackets :: read groups fuel after
          | none => .char '[' :: read groups fuel rest
        else .char c :: read groups fuel rest

/-- The pattern of characters. -/
def ofChars (groups : Bool) (cs : List GlobChar) : List Glob := read groups (cs.length + 1) cs

/-- A pattern in which only an exclamation mark turns brackets around. -/
def hideCarets : List GlobChar → List GlobChar
  | ('[', false) :: ('^', false) :: cs => ('[', false) :: ('^', true) :: hideCarets cs
  | c :: cs => c :: hideCarets cs
  | [] => []

/-- Whether something in a pattern does not stand for itself. -/
def isActive (p : List Glob) : Bool :=
  p.any fun
    | .char _ => false
    | _ => true

/-- Numbers in order, each once. -/
def insertOrdered (n : Nat) : List Nat → List Nat
  | [] => [n]
  | m :: ms => if n < m then n :: m :: ms else if n == m then m :: ms else m :: insertOrdered n ms

/-- The union of two ordered lists of numbers. -/
def union (xs ys : List Nat) : List Nat := ys.foldl (fun zs y => insertOrdered y zs) xs

mutual

/-- Where a part that begins at a place may end, in ascending order. -/
def endsFrom (fold : Bool) (text : Array Char) (at' : Nat) : Glob → List Nat
  | .char c =>
    match text[at']? with
    | some d => if d == c || (fold && toLower d == toLower c) then [at' + 1] else []
    | none => []
  | .one => if at' < text.size then [at' + 1] else []
  | .many => (List.range (text.size + 1 - at')).map (at' + ·)
  | .set negated items =>
    match text[at']? with
    | some d => if items.any (GlobItem.has fold d) != negated then [at' + 1] else []
    | none => []
  | .group count alternatives =>
    let once := fun (place : Nat) => endsOfAny fold text place alternatives
    let repeated := fun (start : List Nat) =>
      (List.range (text.size + 1)).foldl (fun reached place =>
        if reached.contains place then union reached (once place) else reached) start
    match count with
    | .once => once at'
    | .optional => union [at'] (once at')
    | .some => repeated (once at')
    | .any => repeated [at']
    | .except =>
      let hits := once at'
      ((List.range (text.size + 1 - at')).map (at' + ·)).filter fun n => !hits.contains n

/-- Where parts one behind another may end, from one of the given places
on. -/
def endsOfAll (fold : Bool) (text : Array Char) (places : List Nat) : List Glob → List Nat
  | [] => places
  | g :: gs =>
    if places.isEmpty then []
    else
      let next := match g with
        | .many => (List.range (text.size + 1 - places.headD 0)).map (places.headD 0 + ·)
        | _ => places.foldl (fun found place => union found (endsFrom fold text place g)) []
      endsOfAll fold text next gs

/-- Where one of several patterns may end. -/
def endsOfAny (fold : Bool) (text : Array Char) (at' : Nat) : List (List Glob) → List Nat
  | [] => []
  | p :: ps => union (endsOfAll fold text [at'] p) (endsOfAny fold text at' ps)

end

/-- Whether a text matches a pattern. -/
def fits (fold : Bool) (p : List Glob) (cs : Chars) : Bool :=
  (endsOfAll fold cs.toArray [0] p).contains cs.length

/-- A text without the front that matches, the longest one or the
shortest. -/
def dropFront (p : List Glob) (longest : Bool) (cs : Chars) : Chars :=
  let found := endsOfAll false cs.toArray [0] p
  match if longest then found.getLast? else found.head? with
  | some n => cs.drop n
  | none => cs

/-- A text without the back that matches, the longest one or the
shortest. -/
def dropBack (p : List Glob) (longest : Bool) (cs : Chars) : Chars :=
  let text := cs.toArray
  let starts := (List.range (cs.length + 1)).filter fun n =>
    (endsOfAll false text [n] p).contains cs.length
  match if longest then starts.head? else starts.getLast? with
  | some n => cs.take n
  | none => cs

/-- The longest match that begins at a place. -/
def longestAt? (fold : Bool) (p : List Glob) (text : Array Char) (n : Nat) : Option Nat :=
  (endsOfAll fold text [n] p).getLast?

/-- The first place where a pattern matches, and where that match ends; the
places are tried in order. -/
def firstMatch? (fold : Bool) (p : List Glob) (text : Array Char) (from' : Nat) :
    Option (Nat × Nat) :=
  ((List.range (text.size + 1 - from')).map (from' + ·)).findSome? fun n =>
    (longestAt? fold p text n).map fun e => (n, e)

end Glob

end ScriptMatrix.Sandbox
