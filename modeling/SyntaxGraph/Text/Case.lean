import SyntaxGraph.Text.Class
import SyntaxGraph.Text.Entries

/-!
# Upper and lower case

Full case mappings: a character may become several, and a capital sigma at the end of a word is
lowered to its final form.
-/
namespace SyntaxGraph.Text

/-! ### Tables -/

/-- What letters beyond ASCII are lowered to, but for letters in pairs. -/
def loweredText : String :=
  "C0:E0+16;D8:F8+6;130:69 307;178:FF;181:253;186:254;189:256+1;18E:1DD;18F:259;190:25B;193:260;
194:263;196:269;197:268;19C:26F;19D:272;19F:275;1A6:280;1A9:283;1AE:288;1B1:28A+1;1B7:292;1C4:1C6;
1C5:1C6;1C7:1C9;1C8:1C9;1CA:1CC;1CB:1CC;1F1:1F3;1F2:1F3;1F6:195;1F7:1BF;220:19E;23A:2C65;23D:19A;
23E:2C66;243:180;244:289;245:28C;37F:3F3;386:3AC;388:3AD+2;38C:3CC;38E:3CD+1;391:3B1+10;3A3:3C3+8;
3CF:3D7;3F4:3B8;3F9:3F2;3FD:37B+2;400:450+F;410:430+1F;4C0:4CF;531:561+25;10A0:2D00+25;10C7:2D27;
10CD:2D2D;13A0:AB70+4F;13F0:13F8+5;1C90:10D0+2A;1CBD:10FD+2;1E9E:DF;1F08:1F00+7;1F18:1F10+5;
1F28:1F20+7;1F38:1F30+7;1F48:1F40+5;1F59:1F51;1F5B:1F53;1F5D:1F55;1F5F:1F57;1F68:1F60+7;1F88:1F80+7;
1F98:1F90+7;1FA8:1FA0+7;1FB8:1FB0+1;1FBA:1F70+1;1FBC:1FB3;1FC8:1F72+3;1FCC:1FC3;1FD8:1FD0+1;
1FDA:1F76+1;1FE8:1FE0+1;1FEA:1F7A+1;1FEC:1FE5;1FF8:1F78+1;1FFA:1F7C+1;1FFC:1FF3;2126:3C9;212A:6B;
212B:E5;2132:214E;2160:2170+F;24B6:24D0+19;2C00:2C30+2F;2C62:26B;2C63:1D7D;2C64:27D;2C6D:251;
2C6E:271;2C6F:250;2C70:252;2C7E:23F+1;A77D:1D79;A78D:265;A7AA:266;A7AB:25C;A7AC:261;A7AD:26C;
A7AE:26A;A7B0:29E;A7B1:287;A7B2:29D;A7B3:AB53;A7C4:A794;A7C5:282;A7C6:1D8E;FF21:FF41+19;
10400:10428+27;104B0:104D8+23;10570:10597+A;1057C:105A3+E;1058C:105B3+6;10594:105BB+1;
10C80:10CC0+32;118A0:118C0+1F;16E40:16E60+1F;1E900:1E922+21"

/-- What letters beyond ASCII are raised to, but for letters in pairs. -/
def raisedText : String :=
  "B5:39C;DF:53 53;E0:C0+16;F8:D8+6;FF:178;131:49;149:2BC 4E;17F:53;180:243;195:1F6;19A:23D;19E:220;
1BF:1F7;1C5:1C4;1C6:1C4;1C8:1C7;1C9:1C7;1CB:1CA;1CC:1CA;1DD:18E;1F0:4A 30C;1F2:1F1;1F3:1F1;
23F:2C7E+1;250:2C6F;251:2C6D;252:2C70;253:181;254:186;256:189+1;259:18F;25B:190;25C:A7AB;260:193;
261:A7AC;263:194;265:A78D;266:A7AA;268:197;269:196;26A:A7AE;26B:2C62;26C:A7AD;26F:19C;271:2C6E;
272:19D;275:19F;27D:2C64;280:1A6;282:A7C5;283:1A9;287:A7B1;288:1AE;289:244;28A:1B1+1;28C:245;
292:1B7;29D:A7B2;29E:A7B0;345:399;37B:3FD+2;390:399 308 301;3AC:386;3AD:388+2;3B0:3A5 308 301;
3B1:391+10;3C2:3A3;3C3:3A3+8;3CC:38C;3CD:38E+1;3D0:392;3D1:398;3D5:3A6;3D6:3A0;3D7:3CF;3F0:39A;
3F1:3A1;3F2:3F9;3F3:37F;3F5:395;430:410+1F;450:400+F;4CF:4C0;561:531+25;587:535 552;10D0:1C90+2A;
10FD:1CBD+2;13F8:13F0+5;1C80:412;1C81:414;1C82:41E;1C83:421+1;1C85:422;1C86:42A;1C87:462;1C88:A64A;
1D79:A77D;1D7D:2C63;1D8E:A7C6;1E96:48 331;1E97:54 308;1E98:57 30A;1E99:59 30A;1E9A:41 2BE;1E9B:1E60;
1F00:1F08+7;1F10:1F18+5;1F20:1F28+7;1F30:1F38+7;1F40:1F48+5;1F50:3A5 313;1F51:1F59;1F52:3A5 313 300;
1F53:1F5B;1F54:3A5 313 301;1F55:1F5D;1F56:3A5 313 342;1F57:1F5F;1F60:1F68+7;1F70:1FBA+1;1F72:1FC8+3;
1F76:1FDA+1;1F78:1FF8+1;1F7A:1FEA+1;1F7C:1FFA+1;1F80:1F08 399+7;1F88:1F08 399+7;1F90:1F28 399+7;
1F98:1F28 399+7;1FA0:1F68 399+7;1FA8:1F68 399+7;1FB0:1FB8+1;1FB2:1FBA 399;1FB3:391 399;1FB4:386 399;
1FB6:391 342;1FB7:391 342 399;1FBC:391 399;1FBE:399;1FC2:1FCA 399;1FC3:397 399;1FC4:389 399;
1FC6:397 342;1FC7:397 342 399;1FCC:397 399;1FD0:1FD8+1;1FD2:399 308 300;1FD3:399 308 301;
1FD6:399 342;1FD7:399 308 342;1FE0:1FE8+1;1FE2:3A5 308 300;1FE3:3A5 308 301;1FE4:3A1 313;1FE5:1FEC;
1FE6:3A5 342;1FE7:3A5 308 342;1FF2:1FFA 399;1FF3:3A9 399;1FF4:38F 399;1FF6:3A9 342;1FF7:3A9 342 399;
1FFC:3A9 399;214E:2132;2170:2160+F;24D0:24B6+19;2C30:2C00+2F;2C65:23A;2C66:23E;2D00:10A0+25;
2D27:10C7;2D2D:10CD;A794:A7C4;AB53:A7B3;AB70:13A0+4F;FB00:46 46;FB01:46 49;FB02:46 4C;FB03:46 46 49;
FB04:46 46 4C;FB05:53 54;FB06:53 54;FB13:544 546;FB14:544 535;FB15:544 53B;FB16:54E 546;
FB17:544 53D;FF41:FF21+19;10428:10400+27;104D8:104B0+23;10597:10570+A;105A3:1057C+E;105B3:1058C+6;
105BB:10594+1;10CC0:10C80+32;118C0:118A0+1F;16E60:16E40+1F;1E922:1E900+21"

def lowerings : List (Nat × List Nat) := spellings loweredText.toList

def raisings : List (Nat × List Nat) := spellings raisedText.toList

/-! ### Mappings -/

/-- What a table says about a character; if it says nothing, the other letter of its pair, if it is
of the given class. -/
def mapChar (table : List (Nat × List Nat)) (paired : String) (other : Nat) (c : Char) :
    List Char :=
  match table.lookup c.toNat with
  | some codes => codes.map Char.ofNat
  | none => [if isOf paired c then Char.ofNat other else c]

def upperChar (c : Char) : List Char :=
  if c.toNat < 128 then [c.toUpper] else mapChar raisings "a" (c.toNat - 1) c

def upper (text : String) : String :=
  String.ofList (text.toList.flatMap upperChar)

/-- Whether the nearest character that is not passed over is a letter with case. -/
def casedNext (text : List Char) : Bool :=
  match text.dropWhile (isOf "kmf") with
  | [] => false
  | c :: _ => isOf "CsAaOo" c

/-- The lower case form of a character alone. -/
def lowerChar (c : Char) : List Char :=
  if c.toNat < 128 then [c.toLower] else mapChar lowerings "A" (c.toNat + 1) c

/-- The lower case form of a text, given the characters before it from last to first. -/
def lowerAfter (before : List Char) : List Char → List Char
  | [] => []
  | c :: rest =>
    let mapped :=
      if c.toNat = 931 then
        -- A sigma has another form at the end of a word.
        if casedNext before && !casedNext rest then [Char.ofNat 962] else [Char.ofNat 963]
      else lowerChar c
    mapped ++ lowerAfter (c :: before) rest

def lower (text : String) : String :=
  String.ofList (lowerAfter [] text.toList)

end SyntaxGraph.Text
