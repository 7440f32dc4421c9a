import SfcBundler.Json.Printer

/-!
# Messages of a build

## Main definitions

* `Location`, `Message`: a text, who says it and what it is about
* `Message.format`: the message as a line
* `Message.toJson`: the message as data
-/

namespace SfcBundler

/-- The namespace of modules that are files. -/
def fileSpace : String := "file"

/-- The module that a message is about. -/
structure Location where
  file : String
  space : String
deriving Repr, DecidableEq

/-- An error or a warning. -/
structure Message where
  text : String
  plugin : Option String := none
  location : Option Location := none
deriving Repr, DecidableEq

namespace Message

/-- A message that says only its text. -/
def ofText (text : String) : Message := { text }

/-- The message about a module. -/
def withLocation (message : Message) (file space : String) : Message :=
  { message with location := some ⟨file, space⟩ }

/-- The message about a file. -/
def withFile (message : Message) (file : String) : Message := message.withLocation file fileSpace

/-- The message said by a plugin. -/
def withPlugin (message : Message) (plugin : String) : Message :=
  { message with plugin := some plugin }

/-- The message about a file, unless it already says what it is about. -/
def locate (message : Message) (file : String) : Message :=
  if message.location.isNone then message.withFile file else message

/-- The message said by a plugin, unless it already says by whom. -/
def credit (message : Message) (plugin : String) : Message :=
  if message.plugin.isNone then message.withPlugin plugin else message

/-- The file that a message is about. -/
def file? (message : Message) : Option String := message.location.map (·.file)

/-- The message as a line: what it is about, who says it, and the text. -/
def format (message : Message) : String :=
  let about := match message.location with
    | some location => location.file ++ ": "
    | none => ""
  let speaker := match message.plugin with
    | some plugin => "[" ++ plugin ++ "] "
    | none => ""
  about ++ speaker ++ message.text

/-- The message as data; what it does not say is left out. -/
def toJson (message : Message) : Json :=
  let speaker := match message.plugin with
    | some plugin => [("plugin_name", Json.string plugin)]
    | none => []
  let about := match message.location with
    | some location => [("location", Json.ofFields
        [("file", .string location.file), ("namespace", .string location.space)])]
    | none => []
  Json.ofFields (("text", .string message.text) :: speaker ++ about)

@[simp]
theorem locate_location_isSome (message : Message) (file : String) :
    (message.locate file).location.isSome := by
  unfold locate
  split
  · rfl
  · rename_i h
    simpa [Option.isSome_iff_ne_none] using h

@[simp]
theorem credit_plugin_isSome (message : Message) (plugin : String) :
    (message.credit plugin).plugin.isSome := by
  unfold credit
  split
  · rfl
  · rename_i h
    simpa [Option.isSome_iff_ne_none] using h

end Message

end SfcBundler
