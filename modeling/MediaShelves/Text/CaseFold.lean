import MediaShelves.Text.CodeSet

/-!
# Case folding

Simple case folding: characters that differ in case only share one representative, the least of
them.  Folding is one character to one, so a match never changes its length.
-/

namespace MediaShelves.Text

/-- Moves the characters that are not their own representative to it. -/
def caseFoldShifts : List Shift :=
  Shift.table
    "61-7A:41 E0-F6:C0 F8-FE:D8 101-12F/2:100 133-137/2:132 13A-148/2:139 14B-177/2:14A 178:FF
    17A-17E/2:179 17F:53 183-185/2:182 188:187 18C:18B 192:191 199:198 1A1-1A5/2:1A0 1A8:1A7
    1AD:1AC 1B0:1AF 1B4-1B6/2:1B3 1B9:1B8 1BD:1BC 1C5:1C4 1C6:1C4 1C8:1C7 1C9:1C7 1CB:1CA 1CC:1CA
    1CE-1DC/2:1CD 1DD:18E 1DF-1EF/2:1DE 1F2:1F1 1F3:1F1 1F5:1F4 1F6:195 1F7:1BF 1F9-21F/2:1F8
    220:19E 223-233/2:222 23C:23B 23D:19A 242:241 243:180 247-24F/2:246 253:181 254:186
    256-257:189 259:18F 25B:190 260:193 263:194 268:197 269:196 26F:19C 272:19D 275:19F 280:1A6
    283:1A9 288:1AE 289:244 28A-28B:1B1 28C:245 292:1B7 371-373/2:370 377:376 399:345 39C:B5
    3AC:386 3AD-3AF:388 3B1-3B8:391 3B9:345 3BA-3BB:39A 3BC:B5 3BD-3C1:39D 3C2:3A3 3C3-3CB:3A3
    3CC:38C 3CD-3CE:38E 3D0:392 3D1:398 3D5:3A6 3D6:3A0 3D7:3CF 3D9-3EF/2:3D8 3F0:39A 3F1:3A1
    3F3:37F 3F4:398 3F5:395 3F8:3F7 3F9:3F2 3FB:3FA 3FD-3FF:37B 430-44F:410 450-45F:400
    461-481/2:460 48B-4BF/2:48A 4C2-4CE/2:4C1 4CF:4C0 4D1-52F/2:4D0 561-586:531 13F8-13FD:13F0
    1C80:412 1C81:414 1C82:41E 1C83-1C84:421 1C85:422 1C86:42A 1C87:462 1C8A:1C89 1C90-1CBA:10D0
    1CBD-1CBF:10FD 1E01-1E95/2:1E00 1E9B:1E60 1E9E:DF 1EA1-1EFF/2:1EA0 1F08-1F0F:1F00
    1F18-1F1D:1F10 1F28-1F2F:1F20 1F38-1F3F:1F30 1F48-1F4D:1F40 1F59-1F5F/2:1F51 1F68-1F6F:1F60
    1F88-1F8F:1F80 1F98-1F9F:1F90 1FA8-1FAF:1FA0 1FB8-1FB9:1FB0 1FBA-1FBB:1F70 1FBC:1FB3 1FBE:345
    1FC8-1FCB:1F72 1FCC:1FC3 1FD3:390 1FD8-1FD9:1FD0 1FDA-1FDB:1F76 1FE3:3B0 1FE8-1FE9:1FE0
    1FEA-1FEB:1F7A 1FEC:1FE5 1FF8-1FF9:1F78 1FFA-1FFB:1F7C 1FFC:1FF3 2126:3A9 212A:4B 212B:C5
    214E:2132 2170-217F:2160 2184:2183 24D0-24E9:24B6 2C30-2C5F:2C00 2C61:2C60 2C62:26B 2C63:1D7D
    2C64:27D 2C65:23A 2C66:23E 2C68-2C6C/2:2C67 2C6D:251 2C6E:271 2C6F:250 2C70:252 2C73:2C72
    2C76:2C75 2C7E-2C7F:23F 2C81-2CE3/2:2C80 2CEC-2CEE/2:2CEB 2CF3:2CF2 2D00-2D25:10A0 2D27:10C7
    2D2D:10CD A641-A649/2:A640 A64A:1C88 A64B:1C88 A64D-A66D/2:A64C A681-A69B/2:A680
    A723-A72F/2:A722 A733-A76F/2:A732 A77A-A77C/2:A779 A77D:1D79 A77F-A787/2:A77E A78C:A78B
    A78D:265 A791-A793/2:A790 A797-A7A9/2:A796 A7AA:266 A7AB:25C A7AC:261 A7AD:26C A7AE:26A
    A7B0:29E A7B1:287 A7B2:29D A7B5-A7C3/2:A7B4 A7C4:A794 A7C5:282 A7C6:1D8E A7C8-A7CA/2:A7C7
    A7CB:264 A7CD:A7CC A7D1:A7D0 A7D7-A7DB/2:A7D6 A7DC:19B A7F6:A7F5 AB53:A7B3 AB70-ABBF:13A0
    FB06:FB05 FF41-FF5A:FF21 10428-1044F:10400 104D8-104FB:104B0 10597-105A1:10570
    105A3-105B1:1057C 105B3-105B9:1058C 105BB-105BC:10594 10CC0-10CF2:10C80 10D70-10D85:10D50
    118C0-118DF:118A0 16E60-16E7F:16E40 1E922-1E943:1E900"

namespace CodeSet

/-- The members of a set, and where some shifts move them. -/
def withImages (shifts : List Shift) (s : CodeSet) : CodeSet :=
  s.union (.unions (shifts.map fun shift =>
    let touched := s.spans.filter fun span => span.1 ≤ shift.run.last && shift.run.first ≤ span.2
    .ofRuns (touched.map fun span => shift.image span.1 span.2)))

/-- The members of a set with all their case variants: those that share a representative. -/
def caseClosed (s : CodeSet) : CodeSet :=
  (s.withImages caseFoldShifts).withImages (caseFoldShifts.map Shift.inverse)

/-- Images only add members. -/
theorem contains_withImages {s : CodeSet} {n : Nat} (h : s.contains n) (shifts : List Shift) :
    (s.withImages shifts).contains n := by
  simp [withImages, h]

/-- A set is part of its closure. -/
theorem contains_caseClosed {s : CodeSet} {n : Nat} (h : s.contains n) :
    s.caseClosed.contains n :=
  contains_withImages (contains_withImages h _) _

end CodeSet

end MediaShelves.Text
