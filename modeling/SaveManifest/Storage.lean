import SaveManifest.Cache.File
import SaveManifest.Failure
import SaveManifest.FileSystem
import SaveManifest.Manifest.File

/-!
# Loading and saving

The cache and the manifest in their files. Where there is no file there is nothing yet; saving
creates the directory of the file first.
-/

namespace SaveManifest

namespace Storage

/-- What a file holds, read by `read?`, or `absent` where there is no file. -/
def load {α : Type} (read? : String → Option α) (absent : α) (files : FileSystem)
    (path : String) : Except Failure α :=
  if !files.fileExists path then .ok absent
  else match files.read? path with
    | none => .error (.cannotRead path)
    | some text =>
      match read? text with
      | none => .error (.cannotParse path)
      | some value => .ok value

/-- Writes a text to a file in a directory, which is created if need be. -/
def save (text : String) (directory path : String) (files : FileSystem) :
    Except Failure Unit × FileSystem :=
  match files.createDirectories directory with
  | (files, false) => (.error (.cannotCreate directory), files)
  | (files, true) =>
    match files.write? path text with
    | none => (.error (.cannotWrite path), files)
    | some files => (.ok (), files)

end Storage

def Cache.load (files : FileSystem) (path : String) : Except Failure Cache :=
  Storage.load Cache.ofText? {} files path

def Cache.save (cache : Cache) (directory path : String) (files : FileSystem) :
    Except Failure Unit × FileSystem :=
  Storage.save cache.toText directory path files

def Manifest.load (files : FileSystem) (path : String) : Except Failure Manifest :=
  Storage.load Manifest.ofText? {} files path

def Manifest.save (manifest : Manifest) (directory path : String) (files : FileSystem) :
    Except Failure Unit × FileSystem :=
  Storage.save manifest.toText directory path files

end SaveManifest
