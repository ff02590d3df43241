import SyntaxGraph.Text.Case
import SyntaxGraph.Text.Encoding.Punycode
import SyntaxGraph.Text.Normal

/-!
# Labels in the names of hosts

A label with characters beyond ASCII is prepared, so that labels that look alike are spelled alike,
and then spelled in Punycode behind a mark. A spelling is read only if it is the one that the label
would be given.
-/
namespace SyntaxGraph.Text.HostName

def droppedRanges : List (Nat × Nat) :=
  [(0xAD, 0xAD), (0x34F, 0x34F), (0x1806, 0x1806), (0x180B, 0x180D), (0x200B, 0x200D),
    (0x2060, 0x2060), (0xFE00, 0xFE0F), (0xFEFF, 0xFEFF)]

/-- Four lines: what characters are folded to, where it is not their lower case; and in numbers the
characters that are written from left to right, those that no label holds, and those that are
written from right to left. -/
def packedHosts : Packed :=
  ⟨3846, "vM+gu$6T(V|tOΨ4[8'7χ4%ŤVF˅pcƕybzSLLMƺˇXқlmc3LX%~r*B^5ii'^ZdӜlѳ9acj^MS!?&v:1DΖEZr4N=`Minp$7
M%vѾ5F;2D.1oKT.C/Kge/N/8NU?$PӠuXe%`q/,]~tJϊ]6i[ԉs.YWW?:zՉ#&X(n50@N>2mD0~vΞnӵΙ:Zk`0o!juzP:u[9yj&CF'(*
jTŤūʻ?P˳t[eUXdF|Y[M%XZ~s(^3?FiMs|a+gПѓ^>EѝXg#2~AZǗpՇЯ~Aa:.χB/Db3C@m6TÜFf^_UՉZszjˍ66C='nEb/~7RüĘa(gI|
Ϗr#Ǩn1.B@3($gdfmN[?Vm?N~Բ(ƑxԫŒсC(T~/Wf2b%tScYwjcՏbHF=FeqW>ɎWHQ:bcBEL˝ԪA``gu!bwΜ9NxBE>Δ6ojRA=0MzbA!#i
Ȓ1S?1mM>SDz9f@w6PeǓWoTe)*/CH/RHN1`Wh.fp՘Ea*ҭ2BҸgYMl#>a+zsvXTwdĬH~4zCՄ/e]x$XǪOC5Vn9g5c+K1>^#cɻʡ)ќ%nKT
>:%fLξɝeaU%f$w;OdcB]bm)VwBl[a9L:GʉtoPPgrs,aIt_ł.)ě+*BlG(>07YUnǤeVSn',oWv!ʐH0ҡF8[_hsbRfO>z@BOԥdgtʁFXi
rl:ǚ]D5m5sBObabF8]Y>tcq!KՃDugxL~E(&rƫp;SW2n?$!!V=P%Is~04'+WN@OǥdTG<ptz<9Y0'wfCE:BMqƎ@Pkvrӭnfmb+ťmZ=i
&ҟ0&1ϹyTY_5w/x9!ԓ6XJxW~>/d4p~ueymQFʀIF#īGSGyU>2ӵHxg8|77IyGfw;z+ćLudKTA&vMɐ!cҔБ/҄ӾqmLqxwьԺĒ#ϭIMQTbv/Q
0ak(x.mv+*@AІmCA*Ј!HLQ:4Ý]')sdҭc@t!dERբUZՅl8Ѳlj@'Kuz&9<PCL0ZMTˇ_tbtG^%*@4>I;τq?3^Erq4Ats3ʄO&Tu1lV7Խ?
>B%sIMI$+ZGOհ.L,wm62[$9Po6PAY;C4IM1˽m΢*|PbggT5D/rƏJ7f:M.yLc(Xȇ'LɣƥJP[F8HԆΚ(]yJӭF69rˎ0]lg?*KƟ])@Ȉs@r5
ʇYD5A_gk@*kurLę,v&yLm5Y2AWczB8΃nzUeE%;mgCC^k8a5vySq,lʵbUsihλwP%.KU]:(+.nc1LƮkԹOn*l$G~3DwkQ0Mt1m<b2vB
M.dGyƾPnТs;ƟRc]MUY<(R=7b$rNP13ÿLD3EdFe/r|z/Ү5s.D>Ԁ8gTcehXx^=YRPaw>ʾh07zQ`ЅR57G`(ϹkØhf./'~Խr`kkH0P3^)
:t9=|é+ĨMJ]+[ƕgǒl(K4џq`ǼOghVAPm4%#I3QTc|ŬyyΧ/uz@(UtskE7f.ϢԖOZ,7Ȇaҩ>igY9~ϙ1Ĥ"⟩

def hostLine (place : Nat) : List Char :=
  (unpackLines packedHosts).getD place []

/-- The first and the last codes of stretches of characters. For each stretch, the numbers say how
far it begins behind the one before, and how many characters follow its first. -/
def stretches : Nat → List Nat → List (Nat × Nat)
  | before, gap :: more :: numbers =>
    let first := before + gap
    (first, first + more) :: stretches (first + more) numbers
  | _, _ => []

def rangesIn (place : Nat) : List (Nat × Nat) :=
  stretches 0 (entryNumbers (hostLine place))

def leftToRightRanges : List (Nat × Nat) := rangesIn 1

def forbiddenRanges : List (Nat × Nat) := rangesIn 2

def rightToLeftRanges : List (Nat × Nat) := rangesIn 3

structure Tables where
  normal : Normal.Tables
  foldings : List (Nat × List Nat)

def tables (_ : Unit) : Tables where
  normal := Normal.tables ()
  foldings := spellings (hostLine 0)

def within (ranges : List (Nat × Nat)) (code : Nat) : Bool :=
  ranges.any fun (first, last) => first ≤ code && code ≤ last

def foldOnce (t : Tables) (code : Nat) : List Nat :=
  (t.foldings.lookup code).getD
    ((lower (String.singleton (Char.ofNat code))).toList.map Char.toNat)

def foldChar (t : Tables) (code : Nat) : List Nat :=
  let once := foldOnce t code
  let normal := Normal.form t.normal once
  let again := Normal.form t.normal (normal.flatMap (foldOnce t))
  if normal = again then once else again

/-- Whether a label keeps to one direction: if anything in it is written from right to left, its
ends are, and nothing is written the other way. -/
def keepsDirection (codes : List Nat) : Bool :=
  !codes.any (within rightToLeftRanges) ||
    (!codes.any (within leftToRightRanges) &&
      (codes.head?.any (within rightToLeftRanges)) &&
      (codes.getLast?.any (within rightToLeftRanges)))

/-- A label in the form in which labels are compared, if it may be one. -/
def prepare? (t : Tables) (codes : List Nat) : Option (List Nat) :=
  let kept := codes.filter fun code => !within droppedRanges code
  let normal := Normal.form t.normal (kept.flatMap (foldChar t))
  if normal.any (within forbiddenRanges) || !keepsDirection normal then none else some normal

/-- The mark of labels that are spelled in Punycode. -/
def mark : List Char := ['x', 'n', '-', '-']

/-- A spelling, if it is neither empty nor too long. -/
def checkLength? (spelling : List Char) : Option (List Char) :=
  if 0 < spelling.length && spelling.length < 64 then some spelling else none

def ascii? (codes : List Nat) : Option (List Char) :=
  if codes.all (· < 0x80) then some (codes.map Char.ofNat) else none

def spell? (t : Tables) (codes : List Nat) : Option (List Char) :=
  match ascii? codes with
  | some chars => checkLength? chars
  | none => do
    let prepared ← prepare? t codes
    match ascii? prepared with
    | some chars => checkLength? chars
    | none =>
      -- What looks like a spelling already cannot be spelled.
      if (mark.map Char.toNat).isPrefixOf prepared then none
      else checkLength? (mark ++ Punycode.encode prepared)

def maxLength : Nat := 1024

/-- The label that a marked spelling stands for; `inner` is the spelling without its mark. -/
def unmark? (inner : List Char) : Option (List Char) := do
  let numbers := (inner.reverse.takeWhile (· ≠ '-')).reverse
  let basic := inner.take (inner.length - numbers.length - 1)
  let label ← (← Punycode.decode? basic numbers).mapM CodePoint.char?
  -- Only the spelling that the label would be given is read.
  let spelling ← spell? (tables ()) (label.map Char.toNat)
  if (mark ++ inner).map Char.toLower = spelling then some label else none

def readLabel? (spelling : List Char) : Option (List Char) :=
  if maxLength < spelling.length then none
  else if mark.isPrefixOf spelling then unmark? (spelling.drop mark.length)
  else some spelling

def read? (name : List Char) : Option (List Char) := do
  let labels ← (partsBetween '.' name).mapM readLabel?
  return ['.'].intercalate labels

end SyntaxGraph.Text.HostName
