import FormulaLexer.Settings.Basic
import FormulaLexer.Text.Bytes

/-!
The place where settings are kept: a file in a directory of its own. Either path may be
missing, or lead to something else.
-/

namespace FormulaLexer

def settingsDirectory : String := ".cellex"

def settingsFile : String := ".cellex/config"

/-- Bytes are compared by the core library's own test. -/
local instance bytesDecidableEq : DecidableEq ByteArray := ByteArray.instDecidableEq

/-- What the path of the settings file leads to. -/
inductive FileState where
  | missing
  | directory
  | file (bytes : ByteArray)
  deriving DecidableEq

/-- What the path of the settings directory leads to. -/
inductive Store where
  | missing
  /-- A file stands in the place of the directory. -/
  | blocked
  | directory (file : FileState)
  deriving DecidableEq

/-- Why bytes cannot be put into the file. -/
inductive StoreError where
  /-- A file stands in the place of the directory. -/
  | directoryBlocked
  /-- A directory stands in the place of the file. -/
  | fileIsDirectory
  deriving DecidableEq, Repr

def StoreError.message : StoreError → String
  | directoryBlocked => s!"[Errno 17] File exists: '{settingsDirectory}'"
  | fileIsDirectory => s!"[Errno 21] Is a directory: '{settingsFile}'"

/-- Why settings cannot be read or changed. -/
inductive SettingsError where
  /-- The limit to set is out of range. -/
  | limitOutOfRange (requested : Int)
  /-- The store does not take the settings. -/
  | notWritten (error : StoreError)
  /-- The bytes of the file are no UTF-8 text. -/
  | notText
  deriving DecidableEq, Repr

namespace Store

def bytes? : Store → Option ByteArray
  | directory (.file bytes) => some bytes
  | _ => none

/-- The text of the file, with escapes for bytes that are no text. -/
def shownText? (store : Store) : Option String :=
  store.bytes?.map fun bytes => String.ofList (Text.showBytes bytes)

/-- The settings in the store. Where there is no file there are no settings. -/
def read (store : Store) : Except SettingsError Settings :=
  match store.bytes? with
  | none => .ok []
  | some bytes =>
    match String.fromUTF8? bytes with
    | none => .error .notText
    | some text => .ok (Settings.ofText text)

/-- Puts bytes into the file, in place of those that it holds. -/
def writeBytes (bytes : ByteArray) : Store → Except StoreError Store
  | blocked => .error .directoryBlocked
  | directory .directory => .error .fileIsDirectory
  | _ => .ok (directory (.file bytes))

def write (settings : Settings) (store : Store) : Except SettingsError Store :=
  (store.writeBytes settings.toText.toUTF8).mapError .notWritten

end Store

end FormulaLexer
