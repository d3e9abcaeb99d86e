import RollCall.Unicode.Property

/-!
# The edition for texts

Patterns follow edition 16 of Unicode, which the tables of properties hold. Texts follow edition 17.
This module holds what edition 17 changed in the properties that texts need, and these properties as
predicates on characters.
-/
namespace RollCall.Unicode

def cameInEdition17 : CharSet :=
  tableSet
    "88F C5C CDC 1ACF-1ADD 1AE0-1AEB 20C1 2B96 A7CE-A7CF A7D2 A7D4 A7F1 FBC3-FBD2 FD90-FD91
     FDC8-FDCE 10940-10959 10EC5-10EC7 10ED0-10ED8 10EFA-10EFB 11B60-11B67 11DB0-11DDB 11DE0-11DE9
     16EA0-16EB8 16EBB-16ED3 16FF2-16FF6 187F8-187FF 18D09-18D1E 18D80-18DF2 1CCFA-1CCFC
     1CEBA-1CED0 1CEE0-1CEF0 1E6C0-1E6DE 1E6E0-1E6F5 1E6FE-1E6FF 1F6D8 1F777-1F77A 1F8D0-1F8D8
     1FA54-1FA57 1FA8A 1FA8E 1FAC8 1FACD 1FAEA 1FAEF 1FBFA 2B73A-2B73F 2CEA2-2CEAD 323B0-33479"

def addedNumbers : CharSet :=
  tableSet
    "11DE0-11DE9 16FF4-16FF6"

def addedAlphabetic : CharSet :=
  tableSet
    "88F C5C CDC A7CE-A7CF A7D2 A7D4 A7F1 10940-10959 10EC5-10EC7 10EFA-10EFB 11B60-11B67
     11DB0-11DDB 16EA0-16EB8 16EBB-16ED3 16FF2-16FF6 187F8-187FF 18D09-18D1E 18D80-18DF2
     1E6C0-1E6DE 1E6E0-1E6F5 1E6FE-1E6FF 2B73A-2B73F 2CEA2-2CEAD 323B0-33479"

def addedCased : CharSet :=
  tableSet
    "A7CE-A7CF A7D2 A7D4 A7F1 16EA0-16EB8 16EBB-16ED3"

def addedCaseIgnorable : CharSet :=
  tableSet
    "1ACF-1ADD 1AE0-1AEB A7F1 10EC5 10EFA-10EFB 11B60 11B62-11B64 11B66 11DD9 16FF2-16FF3 1E6E3
     1E6E6 1E6EE-1E6EF 1E6F5 1E6FF"

def addedGraphemeExtend : CharSet :=
  tableSet
    "1ACF-1ADD 1AE0-1AEB 10EFA-10EFB 11B60 11B62-11B64 11B66 1E6E3 1E6E6 1E6EE-1E6EF 1E6F5"

def textAlphabetic : CharSet :=
  alphabetic.union addedAlphabetic

def textNumbers : CharSet :=
  (inCategory (·.isNumber)).union addedNumbers

/-- The characters of a text that have a case. Edition 17 takes the case from one letter. -/
def textCased : CharSet :=
  (cased.union addedCased).diff (.one 'ʕ')

/-- The characters of a text that a search for a cased neighbour passes over. -/
def textCaseIgnorable : CharSet :=
  caseIgnorable.union addedCaseIgnorable

/-- Letters of Hangul that are shown as nothing. -/
def fillers : CharSet :=
  tableSet "115F-1160 3164 FFA0"

/-- The characters that are shown as they are when a text is quoted for a reader: spaces of the
usual kind, and all that is neither another separator nor a control, a mark on the character before
it or a filler, and has come so far. -/
def shown : CharSet :=
  let printed := CharSet.unions
    [cameInEdition17, .one ' ', inCategory fun k => !(k.isSeparator || k.isOther)]
  printed.diff
    (.unions [graphemeExtend.diff (ofCategory .modifierLetter), addedGraphemeExtend, fillers])

def isAlphabetic (c : Char) : Bool := textAlphabetic.contains c

def isNumber (c : Char) : Bool := textNumbers.contains c

def isCased (c : Char) : Bool := textCased.contains c

def isCaseIgnorable (c : Char) : Bool := textCaseIgnorable.contains c

def isShown (c : Char) : Bool := shown.contains c

/-- The moves from a character beyond ASCII to its lowercase form. -/
def lowercaseMoves : List Shift :=
  shifts
    "C0-D6/1+20 D8-DE/1+20 100-12E/2+1 132-136/2+1 139-147/2+1 14A-176/2+1 178/1-79
     179-17D/2+1 181/1+D2 182-184/2+1 186/1+CE 187/1+1 189-18A/1+CD 18B/1+1 18E/1+4F 18F/1+CA
     190/1+CB 191/1+1 193/1+CD 194/1+CF 196/1+D3 197/1+D1 198/1+1 19C/1+D3 19D/1+D5 19F/1+D6
     1A0-1A4/2+1 1A6/1+DA 1A7/1+1 1A9/1+DA 1AC/1+1 1AE/1+DA 1AF/1+1 1B1-1B2/1+D9 1B3-1B5/2+1
     1B7/1+DB 1B8/1+1 1BC/1+1 1C4/1+2 1C5/1+1 1C7/1+2 1C8/1+1 1CA/1+2 1CB-1DB/2+1 1DE-1EE/2+1
     1F1/1+2 1F2-1F4/2+1 1F6/1-61 1F7/1-38 1F8-21E/2+1 220/1-82 222-232/2+1 23A/1+2A2B 23B/1+1
     23D/1-A3 23E/1+2A28 241/1+1 243/1-C3 244/1+45 245/1+47 246-24E/2+1 370-372/2+1 376/1+1
     37F/1+74 386/1+26 388-38A/1+25 38C/1+40 38E-38F/1+3F 391-3A1/1+20 3A3-3AB/1+20 3CF/1+8
     3D8-3EE/2+1 3F4/1-3C 3F7/1+1 3F9/1-7 3FA/1+1 3FD-3FF/1-82 400-40F/1+50 410-42F/1+20
     460-480/2+1 48A-4BE/2+1 4C0/1+F 4C1-4CD/2+1 4D0-52E/2+1 531-556/1+30 10A0-10C5/1+1C60
     10C7/1+1C60 10CD/1+1C60 13A0-13EF/1+97D0 13F0-13F5/1+8 1C89/1+1 1C90-1CBA/1-BC0
     1CBD-1CBF/1-BC0 1E00-1E94/2+1 1E9E/1-1DBF 1EA0-1EFE/2+1 1F08-1F0F/1-8 1F18-1F1D/1-8
     1F28-1F2F/1-8 1F38-1F3F/1-8 1F48-1F4D/1-8 1F59-1F5F/2-8 1F68-1F6F/1-8 1F88-1F8F/1-8
     1F98-1F9F/1-8 1FA8-1FAF/1-8 1FB8-1FB9/1-8 1FBA-1FBB/1-4A 1FBC/1-9 1FC8-1FCB/1-56 1FCC/1-9
     1FD8-1FD9/1-8 1FDA-1FDB/1-64 1FE8-1FE9/1-8 1FEA-1FEB/1-70 1FEC/1-7 1FF8-1FF9/1-80
     1FFA-1FFB/1-7E 1FFC/1-9 2126/1-1D5D 212A/1-20BF 212B/1-2046 2132/1+1C 2160-216F/1+10 2183/1+1
     24B6-24CF/1+1A 2C00-2C2F/1+30 2C60/1+1 2C62/1-29F7 2C63/1-EE6 2C64/1-29E7 2C67-2C6B/2+1
     2C6D/1-2A1C 2C6E/1-29FD 2C6F/1-2A1F 2C70/1-2A1E 2C72/1+1 2C75/1+1 2C7E-2C7F/1-2A3F
     2C80-2CE2/2+1 2CEB-2CED/2+1 2CF2/1+1 A640-A66C/2+1 A680-A69A/2+1 A722-A72E/2+1 A732-A76E/2+1
     A779-A77B/2+1 A77D/1-8A04 A77E-A786/2+1 A78B/1+1 A78D/1-A528 A790-A792/2+1 A796-A7A8/2+1
     A7AA/1-A544 A7AB/1-A54F A7AC/1-A54B A7AD/1-A541 A7AE/1-A544 A7B0/1-A512 A7B1/1-A52A
     A7B2/1-A515 A7B3/1+3A0 A7B4-A7C2/2+1 A7C4/1-30 A7C5/1-A543 A7C6/1-8A38 A7C7-A7C9/2+1
     A7CB/1-A567 A7CC-A7DA/2+1 A7DC/1-A641 A7F5/1+1 FF21-FF3A/1+20 10400-10427/1+28
     104B0-104D3/1+28 10570-1057A/1+27 1057C-1058A/1+27 1058C-10592/1+27 10594-10595/1+27
     10C80-10CB2/1+40 10D50-10D65/1+20 118A0-118BF/1+20 16E40-16E5F/1+20 16EA0-16EB8/1+1B
     1E900-1E921/1+22"

/-- The lowercase form of a character, itself when it has none of one character. -/
def lowercase (c : Char) : Char :=
  if c.toNat < 0x80 then c.toLower else move lowercaseMoves c

end RollCall.Unicode
