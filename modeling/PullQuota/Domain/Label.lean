import PullQuota.Domain.Direction
import PullQuota.Domain.Mapping
import PullQuota.Domain.Punycode
import PullQuota.Text.Composition

/-!
The labels of domain names, and the names that consist of them. The tables hold the characters that
names keep, as of Unicode 15.1; ranges may run over others.
-/

namespace PullQuota

namespace Domain

/-- The characters that are written onto the one before. -/
def marks : CodeTable := .ofText
    "300-36F 483-489 591-5BD 5BF 5C1-5C2 5C4-5C5 5C7 610-61A 64B-65F 670 6D6-6DC 6DF-6E4 6E7-6E8
    6EA-6ED 711 730-74A 7A6-7B0 7EB-7F3 7FD 816-819 81B-823 825-827 829-82D 859-85B 898-89F
    8CA-903 93A-93C 93E-94F 951-957 962-963 981-983 9BC 9BE-9CD 9D7 9E2-9E3 9FE-A03 A3C-A51
    A70-A71 A75 A81-A83 ABC ABE-ACD AE2-AE3 AFA-B03 B3C B3E-B57 B62-B63 B82 BBE-BCD BD7 C00-C04
    C3C C3E-C56 C62-C63 C81-C83 CBC CBE-CD6 CE2-CE3 CF3-D03 D3B-D3C D3E-D4D D57 D62-D63 D81-D83
    DCA-DDF DF2-DF3 E31 E34-E3A E47-E4E EB1 EB4-EBC EC8-ECE F18-F19 F35 F37 F39 F3E-F3F F71-F84
    F86-F87 F8D-FBC FC6 102B-103E 1056-1059 105E-1060 1062-1064 1067-106D 1071-1074 1082-108D
    108F 109A-109D 135D-135F 1712-1715 1732-1734 1752-1753 1772-1773 17B6-17D3 17DD 1885-1886
    18A9 1920-193B 1A17-1A1B 1A55-1A7F 1AB0-1B04 1B34-1B44 1B6B-1B73 1B80-1B82 1BA1-1BAD
    1BE6-1BF3 1C24-1C37 1CD0-1CD2 1CD4-1CE8 1CED 1CF4 1CF7-1CF9 1DC0-1DFF 20D0-20F0 2CEF-2CF1
    2D7F 2DE0-2DFF 302A-302F 3099-309A A66F-A672 A674-A67D A69E-A69F A6F0-A6F1 A802 A806 A80B
    A823-A827 A82C A880-A881 A8B4-A8C5 A8E0-A8F1 A8FF A926-A92D A947-A953 A980-A983 A9B3-A9C0
    A9E5 AA29-AA36 AA43 AA4C-AA4D AA7B-AA7D AAB0 AAB2-AAB4 AAB7-AAB8 AABE-AABF AAC1 AAEB-AAEF
    AAF5-AAF6 ABE3-ABEA ABEC-ABED FB1E FE20-FE2F 101FD 102E0 10376-1037A 10A01-10A0F
    10A38-10A3F 10AE5-10AE6 10D24-10D27 10EAB-10EAC 10EFD-10EFF 10F46-10F50 10F82-10F85
    11000-11002 11038-11046 11070 11073-11074 1107F-11082 110B0-110BA 110C2 11100-11102
    11127-11134 11145-11146 11173 11180-11182 111B3-111C0 111C9-111CC 111CE-111CF 1122C-11237
    1123E 11241 112DF-112EA 11300-11303 1133B-1133C 1133E-1134D 11357 11362-11374 11435-11446
    1145E 114B0-114C3 115AF-115C0 115DC-115DD 11630-11640 116AB-116B7 1171D-1172B 1182C-1183A
    11930-1193E 11940 11942-11943 119D1-119E0 119E4 11A01-11A0A 11A33-11A39 11A3B-11A3E 11A47
    11A51-11A5B 11A8A-11A99 11C2F-11C3F 11C92-11CB6 11D31-11D45 11D47 11D8A-11D97 11EF3-11EF6
    11F00-11F01 11F03 11F34-11F42 13440 13447-13455 16AF0-16AF4 16B30-16B36 16F4F 16F51-16F92
    16FE4-16FF1 1BC9D-1BC9E 1CF00-1CF46 1D165-1D169 1D16D-1D182 1D185-1D18B 1D1AA-1D1AD
    1D242-1D244 1DA00-1DA36 1DA3B-1DA6C 1DA75 1DA84 1DA9B-1DAAF 1E000-1E08F 1E130-1E136 1E2AE
    1E2EC-1E2EF 1E4EC-1E4EF 1E8D0-1E8D6 1E944-1E94A"

/-- The marks that take the vowel from a letter. -/
def viramas : CodeTable := .ofText
    "94D 9CD A4D ACD B4D BCD C4D CCD D3B-D3C D4D DCA E3A EBA F84 1039-103A 1714-1715 1734 17D2
    1A60 1B44 1BAA-1BAB 1BF2-1BF3 2D7F A806 A82C A8C4 A953 A9C0 AAF6 ABED 10A3F 11046 11070
    1107F 110B9 11133-11134 111C0 11235 112EA 1134D 11442 114C2 115BF 1163F 116B6 1172B 11839
    1193D-1193E 119E0 11A34 11A47 11A99 11C3F 11D44-11D45 11D97 11F41-11F42"

/-- The letters that join with what follows. -/
def joinsAhead : CodeTable := .ofText
    "620 626 628 62A-62E 633-63F 641-647 649-64A 66E-66F 679-687 69A-6BF 6C1-6C2 6CC 6CE 6D0-6D1
    6FA-6FC 6FF 712-714 71A-71D 71F-727 729 72B 72D-72E 74E-758 75C-76A 76D-770 772 775-777
    77A-77F 7CA-7EA 841-845 848 84A-853 855 860 862-865 868 886 889-88D 8A0-8A9 8AF-8B0 8B3-8B8
    8BA-8C8 1807 1820-1878 1887-18A8 18AA A840-A872 10AC0-10AC4 10ACD 10AD3-10ADC 10ADE-10AE0
    10AEB-10AEE 10B80 10B82 10B86-10B88 10B8A-10B8B 10B8D 10B90 10BAD-10BAE 10D00-10D21 10D23
    10F30-10F32 10F34-10F44 10F51-10F53 10F70-10F73 10F76-10F81 10FB0 10FB2-10FB3 10FB8
    10FBB-10FBC 10FBE-10FBF 10FC1 10FC4 10FCA-10FCB 1E922-1E943"

/-- The letters that join with what comes before. -/
def joinsBack : CodeTable := .ofText
    "620 622-63F 641-64A 66E-66F 671-673 679-6D3 6D5 6EE-6EF 6FA-6FC 6FF 710 712-72F 74D-77F
    7CA-7EA 840-858 860 862-865 867-882 886 889-88E 8A0-8AC 8AE-8C8 1807 1820-1878 1887-18A8
    18AA A840-A871 10AC0-10AC5 10AC7 10AC9-10ACA 10ACE-10AD6 10AD8-10AE1 10AE4 10AEB-10AEF
    10B80-10B91 10BA9-10BAE 10D01-10D23 10F30-10F44 10F51-10F54 10F70-10F81 10FB0 10FB2-10FB6
    10FB8-10FBF 10FC1-10FC4 10FC9-10FCA 1E922-1E943"

/-- The mark without width that keeps letters apart. -/
def nonJoiner : Char := '\u200C'

/-- The mark without width that joins letters. -/
def joiner : Char := '\u200D'

def isJoiner (c : Char) : Bool :=
  c == nonJoiner || c == joiner

/-- Whether the first joiner of a label stands where it changes how letters look, if there is one:
behind a virama, or, if it keeps apart, between letters that would join. -/
def joinerFits? (label : List Char) : Option Bool :=
  let before := label.takeWhile (!isJoiner ·)
  match label.dropWhile (!isJoiner ·) with
  | [] => none
  | c :: after =>
    some (before.getLast?.any (viramas.contains ·.toNat) ||
      (c == nonJoiner && before.any (joinsAhead.contains ·.toNat) &&
        after.any (joinsBack.contains ·.toNat)))

def isAscii (c : Char) : Bool :=
  c.toNat < 0x80

/-- A label that is not all ASCII begins with no mark, and can be read in one way only. -/
def isWideLabel (label : List Char) : Bool :=
  !label.head?.any (marks.contains ·.toNat) && (joinerFits? label).getD (isDirected label)

/-- The mark of a label that is given in Punycode. -/
def codeMark : List Char :=
  "xn--".toList

/-- Punycode stands for a label that is not all ASCII, and in the form that names keep. -/
def isCode (code : List Char) : Bool :=
  if codeMark.isPrefixOf code then false
  else
    match Punycode.decode? code with
    | none => false
    | some label =>
      !label.all isAscii && map? label == some label && Composition.compose label == label &&
        isWideLabel label

def isLabel (label : List Char) : Bool :=
  if codeMark.isPrefixOf label then isCode (label.drop codeMark.length)
  else label.all isAscii || isWideLabel label

/-- The name that a text stands for, if it stands for one. -/
def ofText? (cs : List Char) : Option (List Char) := do
  let name := Composition.compose (← map? cs)
  if (name.splitOn '.').all isLabel then some name else none

end Domain

end PullQuota
