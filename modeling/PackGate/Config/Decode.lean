import PackGate.Config
import PackGate.Yaml.Scalar

/-! Settings read from a YAML text. -/

namespace PackGate.Config

open PackGate.Yaml

/-- Why a value could not be read. -/
inductive Obstacle where
  /-- The document is cut off before the value ends. -/
  | cutOff
  /-- Something does not fit: the keys that lead to it, what is wrong, and where. -/
  | misfit (path : List String) (problem : String) (mark : Mark)

/-- A value being read: the document and the keys that lead to the value. -/
structure Site where
  /-- The document. -/
  document : Document
  /-- The keys that lead to the value, the outermost first. -/
  path : List String := []

namespace Site

/-- The place of the item that stands at `place`, a reference being followed. -/
def item (site : Site) (place : Nat) : Except Obstacle (Nat × Item × Mark) :=
  let target := site.document.locate place
  match site.document.items[target]? with
  | some (item, mark) => .ok (target, item, mark)
  | none => .error .cutOff

/-- The place behind the node at `place`. -/
def behind (site : Site) (place : Nat) : Except Obstacle Nat :=
  match site.document.behind? place with
  | some next => .ok next
  | none => .error .cutOff

/-- Refuses the item found where something else was expected. -/
def refuse {α : Type} (site : Site) (item : Item) (mark : Mark) (expected : String) :
    Except Obstacle (α × Nat) :=
  let problem := match item with
    | .scalar tag text style => Yaml.misfit tag text style expected
    | .sequenceStart | .sequenceEnd => s!"invalid type: sequence, expected {expected}"
    | .mappingStart | .mappingEnd => s!"invalid type: map, expected {expected}"
    | .alias _ | .void => s!"invalid type: unit value, expected {expected}"
  .error (.misfit site.path problem mark)

/-- The value inside the one under `key`. -/
def under (site : Site) (key : String) : Site :=
  { site with path := site.path ++ [key] }

end Site

/-- Reads a value that any scalar can be. -/
def text (expected : String) (site : Site) (place : Nat) : Except Obstacle (String × Nat) := do
  let (_, item, mark) ← site.item place
  match item with
  | .scalar _ text _ => return (text, ← site.behind place)
  | _ => site.refuse item mark expected

/-- Whether a scalar shows its type: it is plain, or a literal block with the standard tag. -/
def showsType (standard : String) (tag : Tag) (style : Style) : Bool :=
  style == .plain || (style == .literal && tag == some (standardTag standard))

/-- Reads a natural number of 64 bits. -/
def word (expected : String) (site : Site) (place : Nat) : Except Obstacle (UInt64 × Nat) := do
  let (_, item, mark) ← site.item place
  let value? := match item with
    | .scalar tag text style =>
      if showsType "int" tag style then Value.unsigned? (Nat.pow 2 64) text else none
    | _ => none
  match value? with
  | some value => return (UInt64.ofNat value, ← site.behind place)
  | none => site.refuse item mark expected

/-- Reads a truth value. -/
def flag (site : Site) (place : Nat) : Except Obstacle (Bool × Nat) := do
  let (_, item, mark) ← site.item place
  let value? := match item with
    | .scalar tag text style => if showsType "bool" tag style then Value.bool? text else none
    | _ => none
  match value? with
  | some value => return (value, ← site.behind place)
  | none => site.refuse item mark "a boolean"

/-- A field of a section: its key, whether it has been read, and how to read it. -/
structure Field (σ : Type) where
  /-- The key. -/
  key : String
  /-- Whether the section already has the field. -/
  present : σ → Bool
  /-- Reads the field into the section. -/
  read : σ → Site → Nat → Except Obstacle (σ × Nat)

/-- Reads the pairs of a mapping from `place` on; keys of no field are passed over. -/
def pairs {σ : Type} (fields : List (Field σ)) (site : Site) (mark : Mark) :
    Nat → σ → Nat → Except Obstacle (σ × Nat)
  | 0, _, _ => .error .cutOff
  | fuel + 1, section_, place => do
    let some (here, _) := site.document.items[place]? | throw .cutOff
    if here == .mappingEnd then return (section_, place + 1)
    -- The key leads to the value only where it is written out.
    let inner := match here with
      | .scalar _ text _ => site.under text
      | _ => site.under "?"
    let (key, value) ← text "field identifier" site place
    match fields.find? (·.key == key) with
    | none => pairs fields site mark fuel section_ (← site.behind value)
    | some field =>
      if field.present section_ then
        throw (.misfit site.path s!"duplicate field `{key}`" mark)
      let (next, after) ← field.read section_ inner value
      pairs fields site mark fuel next after

/-- Reads a section: a mapping, or nothing at all, which stands for an empty one. -/
def sectionOf {σ τ : Type} (name : String) (fields : List (Field σ)) (empty : σ)
    (complete : σ → Except String τ) (site : Site) (place : Nat) : Except Obstacle (τ × Nat) := do
  let (target, item, mark) ← site.item place
  let filled ← match item with
    | .mappingStart => do
      let (filled, _) ←
        pairs fields site mark (site.document.items.size + 1) empty (target + 1)
      pure filled
    | .void => pure empty
    | .scalar _ text style =>
      if text.isEmpty && style == .plain then pure empty
      else (·.1) <$> site.refuse item mark s!"struct {name}"
    | _ => (·.1) <$> site.refuse item mark s!"struct {name}"
  match complete filled with
  | .ok value => return (value, ← site.behind place)
  | .error missing => throw (.misfit site.path s!"missing field `{missing}`" mark)

/-- A field that holds one value. -/
def Field.one {σ α : Type} (key : String) (get : σ → Option α) (set : σ → α → σ)
    (read : Site → Nat → Except Obstacle (α × Nat)) : Field σ where
  key := key
  present := fun section_ => (get section_).isSome
  read := fun section_ site place => do
    let (value, after) ← read site place
    return (set section_ value, after)

/-- Reads the address section. -/
def proxy : Site → Nat → Except Obstacle (Option String × Nat) :=
  sectionOf "ProxyConfig" [.one "http_listen" id (fun _ value => some value) (text "a string")]
    none .ok

/-- Reads the storage section. -/
def storage : Site → Nat → Except Obstacle (String × Nat) :=
  sectionOf "StorageConfig" [.one "repos_path" id (fun _ value => some value) (text "path string")]
    none fun path => match path with
      | some path => .ok path
      | none => .error "repos_path"

/-- Reads the cache section. -/
def cacheSettings : Site → Nat → Except Obstacle (CacheSettings × Nat) :=
  sectionOf "CacheConfig"
    [.one "max_size" Prod.fst (fun read value => (some value, read.2)) (word "usize"),
      .one "build_timeout" Prod.snd (fun read value => (read.1, some value)) (word "u64")]
    ((none, none) : Option UInt64 × Option UInt64)
    fun read => .ok { maxSize := read.1.getD 64, buildTimeout := read.2.getD 30 }

/-- Reads the services section. -/
def services : Site → Nat → Except Obstacle (Bool × Nat) :=
  sectionOf "ServicesConfig" [.one "upload_pack" id (fun _ value => some value) flag] none
    fun value => .ok (value.getD true)

/-- The sections of the settings as far as they have been read. -/
structure Sections where
  /-- The address section. -/
  proxy : Option (Option String) := none
  /-- The storage section. -/
  storage : Option String := none
  /-- The cache section. -/
  cache : Option CacheSettings := none
  /-- The services section. -/
  services : Option Bool := none

/-- The settings that complete sections make; storage may not be left out. -/
def Sections.complete (sections : Sections) : Except String Config :=
  match sections.storage with
  | none => .error "storage"
  | some reposPath =>
    .ok
      { httpListen := sections.proxy.join.getD "0.0.0.0:8080"
        reposPath
        cache := sections.cache.getD {}
        uploadPack := sections.services.getD true }

/-- Reads the settings. -/
def sections : Site → Nat → Except Obstacle (Config × Nat) :=
  sectionOf "Config"
    [.one "proxy" Sections.proxy (fun read value => { read with proxy := some value }) proxy,
      .one "storage" Sections.storage (fun read value => { read with storage := some value })
        storage,
      .one "cache" Sections.cache (fun read value => { read with cache := some value })
        cacheSettings,
      .one "services" Sections.services (fun read value => { read with services := some value })
        services]
    {} Sections.complete

/-- The settings that a text spells, whether or not they make sense. -/
-- What is met first is told, but a text that is not one whole document is always called so.
def decode (text : String) : Except ConfigError Config :=
  let document := Document.ofText text
  match sections { document } 0, document.trouble with
  | .ok (config, _), none => .ok config
  | .ok _, some trouble => .error (.unreadable trouble)
  | .error .cutOff, trouble => .error (.unreadable (trouble.getD "EOF while parsing a value"))
  | .error (.misfit path problem mark), trouble =>
    let told := if path.isEmpty then problem else ".".intercalate path ++ ": " ++ problem
    let shown := told ++ mark.suffix
    if trouble.isSome then .error (.unreadable shown) else .error (.misfit told shown)

/-- The settings that a text spells. -/
def parse (text : String) : Except ConfigError Config := do
  let config ← decode text
  match config.flaw? with
  | some flaw => throw (.flawed flaw)
  | none => return config

end PackGate.Config
