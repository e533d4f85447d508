import MediaShelves.FilePath

/-!
# Mimetypes of files

The mimetype of a file by the extension of its name, in any case.
-/

namespace MediaShelves.Scan

/-- The extensions of media files and playlists with their mimetypes. -/
def mimetypes : List (String × String) :=
  [("mp3", "audio/mpeg"), ("flac", "audio/flac"), ("ogg", "application/ogg"),
    ("oga", "application/ogg"), ("opus", "audio/opus"), ("m4a", "audio/mp4"), ("aac", "audio/aac"),
    ("wav", "audio/x-wav"), ("wma", "audio/x-ms-wma"), ("mkv", "video/x-matroska"),
    ("mp4", "video/mp4"), ("m4v", "video/mp4"), ("avi", "video/x-msvideo"),
    ("mov", "video/quicktime"), ("webm", "video/webm"), ("wmv", "video/x-ms-wmv"),
    ("mpg", "video/mpeg"), ("mpeg", "video/mpeg"), ("jpg", "image/jpeg"), ("jpeg", "image/jpeg"),
    ("png", "image/png"), ("gif", "image/gif"), ("webp", "image/webp"),
    ("raw", "image/x-panasonic-raw"), ("rw2", "image/x-panasonic-raw"), ("m3u", "audio/x-mpegurl"),
    ("m3u8", "application/vnd.apple.mpegurl"), ("pls", "audio/x-scpls"), ("asx", "video/x-ms-asf")]

/-- The extension of a path in lower case. -/
def lowerExtension? (path : String) : Option String :=
  (FilePath.extension? path.toList).map fun extension =>
    String.ofList (FilePath.asciiLower extension)

/-- The mimetype of a file; there is none for files that nothing is done with. -/
def mimetype? (path : String) : Option String :=
  (lowerExtension? path).bind fun extension => mimetypes.lookup extension

end MediaShelves.Scan
