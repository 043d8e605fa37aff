import EntityStore.Entity.Layout
import EntityStore.Text.Case

/-!
# A sample schema

Entities for trying a repository out: accounts, a small blog with relations, an article with
every hook, and tables with an unusual key or column.
-/

namespace EntityStore.Sample

/-! ## Accounts -/

def user : Layout where
  name := "User"
  table := "users"
  columns :=
    [{ name := "id", type := .int64, primaryKey := true },
      { name := "name", type := .text, size := some 100 },
      { name := "email", type := .text, unique := true, size := some 255 },
      { name := "age", column := "years", type := .int32 },
      { name := "nickname", type := .option .text },
      { name := "balance", type := .float64, precision := some 10, scale := some 2,
        default? := some "0" },
      { name := "active", type := .bool }]

abbrev User := user.Item Unit

instance : Entity User := user.entity {}

def oldUser : Layout where
  name := "UserV0"
  table := "users"
  columns :=
    [{ name := "id", type := .int64, primaryKey := true }, { name := "email", type := .text }]

abbrev OldUser := oldUser.Item Unit

instance : Entity OldUser := oldUser.entity {}

/-! ## A blog -/

def post : Layout where
  name := "Post"
  table := "posts"
  columns :=
    [{ name := "id", type := .int64, primaryKey := true },
      { name := "author_id", type := .option .int64 }, { name := "title", type := .text }]

def profile : Layout where
  name := "Profile"
  table := "profiles"
  columns :=
    [{ name := "id", type := .int64, primaryKey := true },
      { name := "author_id", type := .int64 }, { name := "bio", type := .text }]

def badge : Layout where
  name := "Badge"
  table := "badges"
  columns :=
    [{ name := "code", type := .text, primaryKey := true },
      { name := "holder", type := .option .text }]

def author : Layout where
  name := "Author"
  table := "authors"
  columns := [{ name := "id", type := .int64, primaryKey := true }, { name := "name", type := .text }]
  relations :=
    [⟨⟨"posts", .hasMany, post.table, "author_id", "id"⟩, post.columns⟩,
      ⟨⟨"profile", .hasOne, profile.table, "author_id", "id"⟩, profile.columns⟩,
      ⟨⟨"awards", .hasMany, badge.table, "holder", "name"⟩, badge.columns⟩]

def signedPost : Layout :=
  { post with
    relations := [⟨⟨"author", .belongsTo, author.table, "author_id", "id"⟩, author.columns⟩] }

abbrev Author := author.Item Unit
abbrev Post := signedPost.Item Unit
abbrev Profile := profile.Item Unit
abbrev Badge := badge.Item Unit

instance : Entity Author := author.entity {}
instance : Entity Post := signedPost.entity {}
instance : Entity Profile := profile.entity {}
instance : Entity Badge := badge.entity {}

/-! ## Articles with hooks -/

def article : Layout where
  name := "Article"
  table := "articles"
  columns :=
    [{ name := "id", type := .int64, primaryKey := true }, { name := "title", type := .text },
      { name := "slug", type := .text, unique := true }, { name := "locked", type := .bool },
      { name := "revision", type := .int32 }, { name := "note", type := .text }]

/-- An article keeps a trail of the hooks that ran on it, which is not persisted. -/
abbrev Article := article.Item (List String)

namespace Article

def id (a : Article) : Int64 := a.cells.1

def title (a : Article) : String := a.cells.2.1

def slug (a : Article) : String := a.cells.2.2.1

def isLocked (a : Article) : Bool := a.cells.2.2.2.1

def note (a : Article) : String := a.cells.2.2.2.2.2.1

def setSlug (slug : String) (a : Article) : Article :=
  let (id, title, _, rest) := a.cells
  { a with cells := (id, title, slug, rest) }

def revise (a : Article) : Article :=
  let (id, title, slug, locked, revision, rest) := a.cells
  { a with cells := (id, title, slug, locked, revision + 1, rest) }

def leaveTrail (mark : String) (a : Article) : Article := { a with extra := a.extra ++ [mark] }

def slugOf (title : String) : String :=
  String.ofList ((Text.lower title).toList.map fun c => if c = ' ' then '-' else c)

def refuse (point : HookPoint) (a : Article) : Except String Unit :=
  if (a.note.splitOn ("fail:" ++ point.text)).length > 1 then
    .error (point.text ++ " refused " ++ a.title)
  else .ok ()

def checkTitle (a : Article) : Except String Unit :=
  if a.title = "" then .error "title is required" else .ok ()

def checkUnlocked (a : Article) : Except String Unit :=
  if a.isLocked then .error "article is locked" else .ok ()

def validate (a : Article) : Except String Unit := do
  a.checkTitle
  a.refuse .validate

def fillSlug (a : Article) : Article := if a.slug = "" then a.setSlug (slugOf a.title) else a

def mark (point : HookPoint) (text : Article → String) : Edit String Article := fun a =>
  let a := a.leaveTrail (text a)
  (a.refuse point, a)

def beforeCreate : Edit String Article := fun a =>
  let a := (a.leaveTrail HookPoint.beforeCreate.text).fillSlug
  (a.refuse .beforeCreate, a)

def beforeUpdate : Edit String Article := fun a =>
  let a := a.leaveTrail HookPoint.beforeUpdate.text
  match a.checkUnlocked with
  | .error e => (.error e, a)
  | .ok () => (a.revise.refuse .beforeUpdate, a.revise)

def beforeDelete (a : Article) : Except String Unit := do
  a.checkUnlocked
  a.refuse .beforeDelete

def hooks : Hooks Article where
  validate := validate
  beforeCreate := beforeCreate
  afterCreate := mark .afterCreate fun a => HookPoint.afterCreate.text ++ " " ++ toString a.id
  beforeUpdate := beforeUpdate
  afterUpdate := mark .afterUpdate fun _ => HookPoint.afterUpdate.text
  beforeDelete := beforeDelete
  afterDelete := refuse .afterDelete
  afterFind := mark .afterFind fun _ => HookPoint.afterFind.text

end Article

instance : Entity Article := article.entity Article.hooks

/-! ## Unusual keys and columns -/

def entry : Layout where
  name := "Entry"
  table := "entries"
  columns :=
    [{ name := "shelf", type := .int64, primaryKey := true },
      { name := "slot", type := .int32, primaryKey := true },
      { name := "label", type := .option .text }]

/-- No key at all. -/
def logLine : Layout where
  name := "LogLine"
  table := "log_lines"
  columns := [{ name := "message", type := .text }, { name := "level", type := .int16 }]

def event : Layout where
  name := "Event"
  table := "events"
  columns :=
    [{ name := "key", type := .uuid, primaryKey := true }, { name := "payload", type := .json },
      { name := "at", type := .timestamp }, { name := "local", type := .option .localTimestamp },
      { name := "data", type := .bytes }, { name := "ratio", type := .float32 },
      { name := "amount", type := .option .float64 }, { name := "tiny", type := .int8 },
      { name := "small", type := .uint8 }, { name := "medium", type := .uint16 },
      { name := "large", type := .option .uint32 }, { name := "flag", type := .option .bool },
      { name := "trace", type := .option .uuid }]

/-- A key that the store is asked to generate but that is no integer. -/
def token : Layout where
  name := "Token"
  table := "tokens"
  columns :=
    [{ name := "token", type := .uuid, primaryKey := true, autoIncrement := true },
      { name := "label", type := .text }]

/-- A table and a column whose names are not identifiers. -/
def broken : Layout where
  name := "Broken"
  table := "bad table"
  columns :=
    [{ name := "id", type := .int64, primaryKey := true },
      { name := "name", column := "first name", type := .text }]

abbrev Entry := entry.Item Unit
abbrev LogLine := logLine.Item Unit
abbrev Event := event.Item Unit
abbrev Token := token.Item Unit
abbrev Broken := broken.Item Unit

instance : Entity Entry := entry.entity {}
instance : Entity LogLine := logLine.entity {}
instance : Entity Event := event.entity {}
instance : Entity Token := token.entity {}
instance : Entity Broken := broken.entity {}

end EntityStore.Sample
