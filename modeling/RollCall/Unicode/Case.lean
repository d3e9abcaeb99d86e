import RollCall.Unicode.Table

/-!
# Case mappings of single characters

The simple case folding maps a character to the form under which texts are compared without regard
to case. `CharSet.foldCase` closes a set under it. The tables after it hold the characters that a
full mapping of case changes.
-/
namespace RollCall

namespace Unicode

/-- The moves from a character to its simple case folding. -/
def foldMoves : List Shift :=
  shifts
    "41-5A/1+20 B5/1+307 C0-D6/1+20 D8-DE/1+20 100-12E/2+1 132-136/2+1 139-147/2+1 14A-176/2+1
     178/1-79 179-17D/2+1 17F/1-10C 181/1+D2 182-184/2+1 186/1+CE 187/1+1 189-18A/1+CD 18B/1+1
     18E/1+4F 18F/1+CA 190/1+CB 191/1+1 193/1+CD 194/1+CF 196/1+D3 197/1+D1 198/1+1 19C/1+D3
     19D/1+D5 19F/1+D6 1A0-1A4/2+1 1A6/1+DA 1A7/1+1 1A9/1+DA 1AC/1+1 1AE/1+DA 1AF/1+1 1B1-1B2/1+D9
     1B3-1B5/2+1 1B7/1+DB 1B8/1+1 1BC/1+1 1C4/1+2 1C5/1+1 1C7/1+2 1C8/1+1 1CA/1+2 1CB-1DB/2+1
     1DE-1EE/2+1 1F1/1+2 1F2-1F4/2+1 1F6/1-61 1F7/1-38 1F8-21E/2+1 220/1-82 222-232/2+1 23A/1+2A2B
     23B/1+1 23D/1-A3 23E/1+2A28 241/1+1 243/1-C3 244/1+45 245/1+47 246-24E/2+1 345/1+74
     370-372/2+1 376/1+1 37F/1+74 386/1+26 388-38A/1+25 38C/1+40 38E-38F/1+3F 391-3A1/1+20
     3A3-3AB/1+20 3C2/1+1 3CF/1+8 3D0/1-1E 3D1/1-19 3D5/1-F 3D6/1-16 3D8-3EE/2+1 3F0/1-36 3F1/1-30
     3F4/1-3C 3F5/1-40 3F7/1+1 3F9/1-7 3FA/1+1 3FD-3FF/1-82 400-40F/1+50 410-42F/1+20 460-480/2+1
     48A-4BE/2+1 4C0/1+F 4C1-4CD/2+1 4D0-52E/2+1 531-556/1+30 10A0-10C5/1+1C60 10C7/1+1C60
     10CD/1+1C60 13F8-13FD/1-8 1C80/1-184E 1C81/1-184D 1C82/1-1844 1C83-1C84/1-1842 1C85/1-1843
     1C86/1-183C 1C87/1-1824 1C88/1+89C3 1C89/1+1 1C90-1CBA/1-BC0 1CBD-1CBF/1-BC0 1E00-1E94/2+1
     1E9B/1-3A 1E9E/1-1DBF 1EA0-1EFE/2+1 1F08-1F0F/1-8 1F18-1F1D/1-8 1F28-1F2F/1-8 1F38-1F3F/1-8
     1F48-1F4D/1-8 1F59-1F5F/2-8 1F68-1F6F/1-8 1F88-1F8F/1-8 1F98-1F9F/1-8 1FA8-1FAF/1-8
     1FB8-1FB9/1-8 1FBA-1FBB/1-4A 1FBC/1-9 1FBE/1-1C05 1FC8-1FCB/1-56 1FCC/1-9 1FD3/1-1C43
     1FD8-1FD9/1-8 1FDA-1FDB/1-64 1FE3/1-1C33 1FE8-1FE9/1-8 1FEA-1FEB/1-70 1FEC/1-7 1FF8-1FF9/1-80
     1FFA-1FFB/1-7E 1FFC/1-9 2126/1-1D5D 212A/1-20BF 212B/1-2046 2132/1+1C 2160-216F/1+10 2183/1+1
     24B6-24CF/1+1A 2C00-2C2F/1+30 2C60/1+1 2C62/1-29F7 2C63/1-EE6 2C64/1-29E7 2C67-2C6B/2+1
     2C6D/1-2A1C 2C6E/1-29FD 2C6F/1-2A1F 2C70/1-2A1E 2C72/1+1 2C75/1+1 2C7E-2C7F/1-2A3F
     2C80-2CE2/2+1 2CEB-2CED/2+1 2CF2/1+1 A640-A66C/2+1 A680-A69A/2+1 A722-A72E/2+1 A732-A76E/2+1
     A779-A77B/2+1 A77D/1-8A04 A77E-A786/2+1 A78B/1+1 A78D/1-A528 A790-A792/2+1 A796-A7A8/2+1
     A7AA/1-A544 A7AB/1-A54F A7AC/1-A54B A7AD/1-A541 A7AE/1-A544 A7B0/1-A512 A7B1/1-A52A
     A7B2/1-A515 A7B3/1+3A0 A7B4-A7C2/2+1 A7C4/1-30 A7C5/1-A543 A7C6/1-8A38 A7C7-A7C9/2+1
     A7CB/1-A567 A7CC/1+1 A7D0/1+1 A7D6-A7DA/2+1 A7DC/1-A641 A7F5/1+1 AB70-ABBF/1-97D0 FB05/1+1
     FF21-FF3A/1+20 10400-10427/1+28 104B0-104D3/1+28 10570-1057A/1+27 1057C-1058A/1+27
     1058C-10592/1+27 10594-10595/1+27 10C80-10CB2/1+40 10D50-10D65/1+20 118A0-118BF/1+20
     16E40-16E5F/1+20 1E900-1E921/1+22"

/-- The characters with a folding other than themselves, each with its folding. -/
def foldPairs : List (Nat × Nat) :=
  foldMoves.flatMap Shift.pairs

def changesWhenLowercased : CharSet :=
  tableSet
    "41-5A C0-D6 D8-DE 100-136/2 139-147/2 14A-176/2 178-179 17B 17D 181-182 184 186-187 189-18B
     18E-191 193-194 196-198 19C-19D 19F-1A0 1A2 1A4 1A6-1A7 1A9 1AC 1AE-1AF 1B1-1B3 1B5 1B7-1B8
     1BC 1C4-1C5 1C7-1C8 1CA-1CB 1CD-1DB/2 1DE-1EE/2 1F1-1F2 1F4 1F6-1F8 1FA-232/2 23A-23B 23D-23E
     241 243-246 248-24E/2 370 372 376 37F 386 388-38A 38C 38E-38F 391-3A1 3A3-3AB 3CF 3D8-3EE/2
     3F4 3F7 3F9-3FA 3FD-42F 460-480/2 48A-4BE/2 4C0-4C1 4C3-4CD/2 4D0-52E/2 531-556 10A0-10C5 10C7
     10CD 13A0-13F5 1C89 1C90-1CBA 1CBD-1CBF 1E00-1E94/2 1E9E-1EFE/2 1F08-1F0F 1F18-1F1D 1F28-1F2F
     1F38-1F3F 1F48-1F4D 1F59-1F5F/2 1F68-1F6F 1F88-1F8F 1F98-1F9F 1FA8-1FAF 1FB8-1FBC 1FC8-1FCC
     1FD8-1FDB 1FE8-1FEC 1FF8-1FFC 2126 212A-212B 2132 2160-216F 2183 24B6-24CF 2C00-2C2F 2C60
     2C62-2C64 2C67-2C6B/2 2C6D-2C70 2C72 2C75 2C7E-2C80 2C82-2CE2/2 2CEB 2CED 2CF2 A640-A66C/2
     A680-A69A/2 A722-A72E/2 A732-A76E/2 A779 A77B A77D-A77E A780-A786/2 A78B A78D A790 A792
     A796-A7A8/2 A7AA-A7AE A7B0-A7B4 A7B6-A7C2/2 A7C4-A7C7 A7C9 A7CB-A7CC A7D0 A7D6-A7DC/2 A7F5
     FF21-FF3A 10400-10427 104B0-104D3 10570-1057A 1057C-1058A 1058C-10592 10594-10595 10C80-10CB2
     10D50-10D65 118A0-118BF 16E40-16E5F 1E900-1E921"

def changesWhenUppercased : CharSet :=
  tableSet
    "61-7A B5 DF-F6 F8-FF 101-137/2 13A-146/2 148-149 14B-177/2 17A 17C 17E-180 183 185 188 18C 192
     195 199-19B 19E 1A1-1A5/2 1A8 1AD 1B0 1B4 1B6 1B9 1BD 1BF 1C5-1C6 1C8-1C9 1CB-1CC 1CE-1DA/2
     1DC-1DD 1DF-1ED/2 1EF-1F0 1F2-1F3 1F5 1F9-21F/2 223-233/2 23C 23F-240 242 247-24D/2 24F-254
     256-257 259 25B-25C 260-261 263-266 268-26C 26F 271-272 275 27D 280 282-283 287-28C 292
     29D-29E 345 371 373 377 37B-37D 390 3AC-3CE 3D0-3D1 3D5-3D7 3D9-3ED/2 3EF-3F3 3F5 3F8 3FB
     430-45F 461-481/2 48B-4BF/2 4C2-4CC/2 4CE-4CF 4D1-52F/2 561-587 10D0-10FA 10FD-10FF 13F8-13FD
     1C80-1C88 1C8A 1D79 1D7D 1D8E 1E01-1E93/2 1E95-1E9B 1EA1-1EFD/2 1EFF-1F07 1F10-1F15 1F20-1F27
     1F30-1F37 1F40-1F45 1F50-1F57 1F60-1F67 1F70-1F7D 1F80-1FB4 1FB6-1FB7 1FBC 1FBE 1FC2-1FC4
     1FC6-1FC7 1FCC 1FD0-1FD3 1FD6-1FD7 1FE0-1FE7 1FF2-1FF4 1FF6-1FF7 1FFC 214E 2170-217F 2184
     24D0-24E9 2C30-2C5F 2C61 2C65-2C66 2C68-2C6C/2 2C73 2C76 2C81-2CE3/2 2CEC 2CEE 2CF3 2D00-2D25
     2D27 2D2D A641-A66D/2 A681-A69B/2 A723-A72F/2 A733-A76F/2 A77A A77C A77F-A787/2 A78C A791
     A793-A794 A797-A7A9/2 A7B5-A7C3/2 A7C8 A7CA A7CD A7D1 A7D7-A7DB/2 A7F6 AB53 AB70-ABBF
     FB00-FB06 FB13-FB17 FF41-FF5A 10428-1044F 104D8-104FB 10597-105A1 105A3-105B1 105B3-105B9
     105BB-105BC 10CC0-10CF2 10D70-10D85 118C0-118DF 16E60-16E7F 1E922-1E943"

def changesWhenTitlecased : CharSet :=
  tableSet
    "61-7A B5 DF-F6 F8-FF 101-137/2 13A-146/2 148-149 14B-177/2 17A 17C 17E-180 183 185 188 18C 192
     195 199-19B 19E 1A1-1A5/2 1A8 1AD 1B0 1B4 1B6 1B9 1BD 1BF 1C4 1C6-1C7 1C9-1CA 1CC-1DA/2
     1DC-1DD 1DF-1ED/2 1EF-1F1 1F3 1F5 1F9-21F/2 223-233/2 23C 23F-240 242 247-24D/2 24F-254
     256-257 259 25B-25C 260-261 263-266 268-26C 26F 271-272 275 27D 280 282-283 287-28C 292
     29D-29E 345 371 373 377 37B-37D 390 3AC-3CE 3D0-3D1 3D5-3D7 3D9-3ED/2 3EF-3F3 3F5 3F8 3FB
     430-45F 461-481/2 48B-4BF/2 4C2-4CC/2 4CE-4CF 4D1-52F/2 561-587 13F8-13FD 1C80-1C88 1C8A 1D79
     1D7D 1D8E 1E01-1E93/2 1E95-1E9B 1EA1-1EFD/2 1EFF-1F07 1F10-1F15 1F20-1F27 1F30-1F37 1F40-1F45
     1F50-1F57 1F60-1F67 1F70-1F7D 1F80-1F87 1F90-1F97 1FA0-1FA7 1FB0-1FB4 1FB6-1FB7 1FBE 1FC2-1FC4
     1FC6-1FC7 1FD0-1FD3 1FD6-1FD7 1FE0-1FE7 1FF2-1FF4 1FF6-1FF7 214E 2170-217F 2184 24D0-24E9
     2C30-2C5F 2C61 2C65-2C66 2C68-2C6C/2 2C73 2C76 2C81-2CE3/2 2CEC 2CEE 2CF3 2D00-2D25 2D27 2D2D
     A641-A66D/2 A681-A69B/2 A723-A72F/2 A733-A76F/2 A77A A77C A77F-A787/2 A78C A791 A793-A794
     A797-A7A9/2 A7B5-A7C3/2 A7C8 A7CA A7CD A7D1 A7D7-A7DB/2 A7F6 AB53 AB70-ABBF FB00-FB06
     FB13-FB17 FF41-FF5A 10428-1044F 104D8-104FB 10597-105A1 105A3-105B1 105B3-105B9 105BB-105BC
     10CC0-10CF2 10D70-10D85 118C0-118DF 16E60-16E7F 1E922-1E943"

def changesWhenCasefolded : CharSet :=
  tableSet
    "41-5A B5 C0-D6 D8-DF 100-136/2 139-147/2 149-14A 14C-176/2 178-179 17B-17F/2 181-182 184
     186-187 189-18B 18E-191 193-194 196-198 19C-19D 19F-1A0 1A2 1A4 1A6-1A7 1A9 1AC 1AE-1AF
     1B1-1B3 1B5 1B7-1B8 1BC 1C4-1C5 1C7-1C8 1CA-1CB 1CD-1DB/2 1DE-1EE/2 1F1-1F2 1F4 1F6-1F8
     1FA-232/2 23A-23B 23D-23E 241 243-246 248-24E/2 345 370 372 376 37F 386 388-38A 38C 38E-38F
     391-3A1 3A3-3AB 3C2 3CF-3D1 3D5-3D6 3D8-3EE/2 3F0-3F1 3F4-3F5 3F7 3F9-3FA 3FD-42F 460-480/2
     48A-4BE/2 4C0-4C1 4C3-4CD/2 4D0-52E/2 531-556 587 10A0-10C5 10C7 10CD 13F8-13FD 1C80-1C89
     1C90-1CBA 1CBD-1CBF 1E00-1E94/2 1E9A-1E9B 1E9E-1EFE/2 1F08-1F0F 1F18-1F1D 1F28-1F2F 1F38-1F3F
     1F48-1F4D 1F59-1F5F/2 1F68-1F6F 1F80-1FAF 1FB2-1FB4 1FB7-1FBC 1FC2-1FC4 1FC7-1FCC 1FD8-1FDB
     1FE8-1FEC 1FF2-1FF4 1FF7-1FFC 2126 212A-212B 2132 2160-216F 2183 24B6-24CF 2C00-2C2F 2C60
     2C62-2C64 2C67-2C6B/2 2C6D-2C70 2C72 2C75 2C7E-2C80 2C82-2CE2/2 2CEB 2CED 2CF2 A640-A66C/2
     A680-A69A/2 A722-A72E/2 A732-A76E/2 A779 A77B A77D-A77E A780-A786/2 A78B A78D A790 A792
     A796-A7A8/2 A7AA-A7AE A7B0-A7B4 A7B6-A7C2/2 A7C4-A7C7 A7C9 A7CB-A7CC A7D0 A7D6-A7DC/2 A7F5
     AB70-ABBF FB00-FB06 FB13-FB17 FF21-FF3A 10400-10427 104B0-104D3 10570-1057A 1057C-1058A
     1058C-10592 10594-10595 10C80-10CB2 10D50-10D65 118A0-118BF 16E40-16E5F 1E900-1E921"

def changesWhenCasemapped : CharSet :=
  .unions [changesWhenLowercased, changesWhenUppercased, changesWhenTitlecased]

end Unicode

namespace CharSet

/-- The foldings of the characters of a set, those that are foldings already among them. -/
def foldings (s : CharSet) : CharSet :=
  let hits := Unicode.foldPairs.filter fun (n, folded) => s.holds n || s.holds folded
  ofRanges (hits.map fun (_, folded) => ⟨folded, folded⟩)

/-- The characters that agree with one of the set but for case. -/
def foldCase (s : CharSet) : CharSet :=
  let folded := s.foldings
  let origins := Unicode.foldPairs.filter fun (_, f) => folded.holds f
  unions [s, folded, ofRanges (origins.map fun (n, _) => ⟨n, n⟩)]

end CharSet
end RollCall
