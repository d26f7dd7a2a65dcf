import PackGate.Yaml.Event

/-! One YAML document as a row of items, with every reference resolved to a place in the row. -/

namespace PackGate.Yaml

/-- What stands at a place of a document. -/
inductive Item where
  /-- A reference to the node with the given number. -/
  | alias (number : Nat)
  /-- A scalar. -/
  | scalar (tag : Tag) (text : String) (style : Style)
  /-- A sequence begins. -/
  | sequenceStart
  /-- A sequence ends. -/
  | sequenceEnd
  /-- A mapping begins. -/
  | mappingStart
  /-- A mapping ends. -/
  | mappingEnd
  /-- The text held no document at all. -/
  | void
deriving DecidableEq, Repr

/-- A document, possibly cut off by a fault. -/
structure Document where
  /-- The items with their positions. -/
  items : Array (Item × Mark) := #[]
  /-- The place of every numbered node, the latest first. -/
  places : List (Nat × Nat) := []
  /-- What is wrong with the text, if it is not exactly one whole document. -/
  trouble : Option String := none

/-- A document being read: the row so far and the number that each name stands for. -/
structure Composer where
  /-- The document so far. -/
  document : Document := {}
  /-- The number of each name. -/
  names : List (String × Nat) := []

namespace Composer

/-- Gives a name to the node that begins at the end of the row. -/
-- A name keeps one entry however often it is given; its number is the count of names at the time.
def name (composer : Composer) (anchor : Option String) : Composer :=
  match anchor with
  | none => composer
  | some anchor =>
    let number := composer.names.length
    let kept := composer.names.filter fun entry => entry.1 != anchor
    let document := composer.document
    { document := { document with places := (number, document.items.size) :: document.places }
      names := (anchor, number) :: kept }

/-- Appends an item. -/
def push (composer : Composer) (item : Item) (mark : Mark) : Composer :=
  let document := composer.document
  { composer with document := { document with items := document.items.push (item, mark) } }

/-- The document, cut off for the given reason. -/
def cut (composer : Composer) (trouble : String) : Document :=
  { composer.document with trouble := some trouble }

/-- What a text with a second document is told. -/
def severalDocuments : String :=
  "deserializing from YAML containing more than one document is not supported"

/-- Reads the events of the first document. -/
def read (fault : Option Fault) : List Event → Composer → Document
  | [], composer =>
    match fault with
    | some fault => composer.cut fault.message
    | none => composer.cut "EOF while parsing a value"
  | event :: rest, composer =>
    match event.kind with
    | .documentStart => read fault rest composer
    | .documentEnd =>
      match rest with
      | { kind := .streamEnd, .. } :: _ => composer.document
      | _ => composer.cut severalDocuments
    | .streamEnd => (composer.push .void event.mark).document
    | .alias name =>
      match composer.names.lookup name with
      | some number => read fault rest (composer.push (.alias number) event.mark)
      | none => composer.cut ("unknown anchor" ++ event.mark.suffix)
    | .scalar anchor tag text style =>
      read fault rest ((composer.name anchor).push (.scalar tag text style) event.mark)
    | .sequenceStart anchor =>
      read fault rest ((composer.name anchor).push .sequenceStart event.mark)
    | .sequenceEnd => read fault rest (composer.push .sequenceEnd event.mark)
    | .mappingStart anchor =>
      read fault rest ((composer.name anchor).push .mappingStart event.mark)
    | .mappingEnd => read fault rest (composer.push .mappingEnd event.mark)

end Composer

namespace Document

/-- The document that a text holds. -/
def ofText (text : String) : Document :=
  let (events, fault) := events text
  Composer.read fault events.toList {}

/-- The place of the node that stands at `place`, a reference being followed. -/
def locate (document : Document) (place : Nat) : Nat :=
  match document.items[place]? with
  | some (.alias number, _) => (document.places.lookup number).getD place
  | _ => place

/-- The place behind the node that begins at `place`, inside `depth` open collections. -/
def skip? (document : Document) : Nat → Nat → Nat → Option Nat
  | 0, _, _ => none
  | fuel + 1, depth, place =>
    match document.items[place]? with
    | none => none
    | some (item, _) =>
      let after := match item with
        | .sequenceStart | .mappingStart => depth + 1
        | .sequenceEnd | .mappingEnd => depth - 1
        | _ => depth
      if after = 0 then some (place + 1) else skip? document fuel after (place + 1)

/-- The place behind the node that begins at `place`; none if the document is cut off before. -/
def behind? (document : Document) (place : Nat) : Option Nat :=
  document.skip? (document.items.size + 1) 0 place

end Document

end PackGate.Yaml
