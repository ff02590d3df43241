import SyntaxGraph.Text.Encoding.Basic

/-!
# Names of encodings
-/
namespace SyntaxGraph.Text

/-- The encodings of single bytes that go by the names of their pages. -/
def pageNames : List String :=
  ["cp037", "cp1006", "cp1026", "cp1125", "cp1140", "cp1250", "cp1251", "cp1252", "cp1253",
    "cp1254", "cp1255", "cp1256", "cp1257", "cp1258", "cp273", "cp424", "cp437", "cp500", "cp720",
    "cp737", "cp775", "cp850", "cp852", "cp855", "cp856", "cp857", "cp858", "cp860", "cp861",
    "cp862", "cp863", "cp864", "cp865", "cp866", "cp869", "cp874", "cp875", "hp_roman8",
    "iso8859_10", "iso8859_11", "iso8859_13", "iso8859_14", "iso8859_15", "iso8859_16",
    "iso8859_2", "iso8859_3", "iso8859_4", "iso8859_5", "iso8859_6", "iso8859_7", "iso8859_8",
    "iso8859_9", "koi8_r", "koi8_t", "koi8_u", "kz1048", "mac_arabic", "mac_croatian",
    "mac_cyrillic", "mac_farsi", "mac_greek", "mac_iceland", "mac_latin2", "mac_roman",
    "mac_romanian", "mac_turkish", "palmos", "ptcp154", "tis_620"]

def pairEncodings : List PairEncoding :=
  [.gb2312, .gbk, .gb18030, .big5, .windowsBig5, .hongKong, .eucKr, .windowsKorean, .johab, .eucJp,
    .shiftJis, .windowsJapanese, .eucJis .first, .eucJis .second, .shiftedJis .first,
    .shiftedJis .second]

def mailEncodings : List MailEncoding :=
  [.japanese, .japanese1, .japanese2, .japaneseExtended, .japanese0213 .first,
    .japanese0213 .second, .korean]

def encodingNames : List (String × Encoding) :=
  [("ascii", .ascii), ("charmap", .latin1), ("hz", .hz), ("idna", .hostName),
    ("iso8859_1", .latin1), ("latin_1", .latin1), ("punycode", .punycode),
    ("raw_unicode_escape", .rawEscaped), ("undefined", .unusable), ("unicode_escape", .escaped),
    ("utf_16", .utf16 none), ("utf_16_be", .utf16 (some .big)),
    ("utf_16_le", .utf16 (some .little)), ("utf_32", .utf32 none),
    ("utf_32_be", .utf32 (some .big)), ("utf_32_le", .utf32 (some .little)), ("utf_7", .utf7),
    ("utf_8", .utf8), ("utf_8_sig", .utf8WithMark)] ++
    pageNames.map (fun name => (name, .page name)) ++
    pairEncodings.map (fun encoding => (encoding.name, .pairs encoding)) ++
    mailEncodings.map fun encoding => (encoding.name, .mail encoding)

/-- Other names of encodings, each with the name that stands for it, one to a line. -/
def packedAliases : Packed :=
  ⟨5490, "x~ԐZҭHGJ|Z^XKeG9jYǆ|`r5_!~hXgɤGctT/ɮNoV՘+%IY'L˪V/kЙ~ӔO/cI%<wbD.U~~n)aKv)N&?C%v'$jKz&S,HK,3
QKzwCӾWXhmwǩ&TX_gǻoyB(_VԴ>ϐ?vz._<$RE/R+iNc|QjhR'^fj7<6~SA2?hX1srrtWimzHӻϸ'<6LʃXɒlp4U9ro/gƜ2FW84KoґSJ
eȪŽ4qrdMwLh.i0*˘4Ӻ~3kwWq˯3KǱr]2Б?lQԡ*mbn/s:kȺUqlp(3ekRjX`9ӯќ&!prm4NzV(OoTCmJ>IѭN:J~úM?NR:fLzln=#Υ^uo
~03hr+<(enG%GHJPRvF`4wtNj.K8ʦ)@bLpk?<1ŦP_.[eŃGw3RCoAHɷbJҖԓuDnHMK]ʻ?6Q[C4$TSƮjZm+ĆNE=ES#с>aШmoǴ:A8t,H
t`Ǡ&Bc(&7ndƧW#$><NyPņԪHMw/cEDWnxo9EfBΠbzОuŭZKfdcS9ԫ#C`FyVv6ʾw<nBDV.Qr:(0JŘuǹW$nPLxONY%iPʁkюn3nicQ_|~
%c=20V`ß(#pA6mǬO?J^[`i'+(.L3&Ƭywΐ)k%i%H˧/gRCv3Y45>'l~P%˚magUʈ#$ZjȵʓJ>FPexy8ΰ(c21KG>9Bn!V+PJklvϜ4j*%N
E53>:largQoθG)!ǻTg|K7GPlG6b2)ԑ4Œ@rpghIcXlǐ*0_Ma[bS$0r7y)jnxÕzvź+IΆo~'.ȍb,Df%OM&9O86U,[R>tP~9*lA3r3jї
930:/UR.q;oԗv#pwXiW,BEom8OqGNS'+y=UѓHƗˇ/?bQwcM7n1@MN>gq2<oHZJQo^%/ǆӍU$*snN1;ΐxby6x&TǮXhҞwX|t'ZǲxC^+d
W%%yɰE^p3ѺnNQBjBYtQFQ7Ʀ>ck+yѓWmxɳqyUafrw6D.I24devakӛ3˵tzG1μ%Wz|%R%8GR|+;3B*2xε/uȽ0]jfzD5ǵ'x|T_ГŵǕwTӒ
kI<JGŦ7d?gЪVBnOBDb`/ʯ/z=àÆGFIB/6+?eUSig5E8ʬBԔ;Yw^eM^cVeyk$*ax_uQ@Ȇ77!ћ846Ƈ6FZ8fxmR_$<ʸ0ՙOFbǉ+xɮ's=ƛC
u*5CŚazw?=zeСxip>c˫H3ς01TЀĔE]9kǯFO>.΃5h@*8SyE<Œ6'KͷuNI*Ss@ғH~h^[2άh]aΌԑqY.dw/.p>`9NGb˵pL.NFQ4ӣTyet`Ҭ
3PdoeDm8wiP)c^ưjJ$ƚZ0.q?xș<]Wxd4h0=4ou<Ik]pnn;FKgxMPpGXӶr9κ0D*ӗgopTX.*#N53Ļ?:)cU'/uV$&JXYLk_>^#L<qcO
V)WàA~creV2dæ[&ӪAQӎYQ2X6iKS5.!!<ՉU*v*oX4ob1%3tvvj1@EN7Vtz@zK&+o(QǗ"⟩

def encodingAliased? (wanted : List Char) : Option Encoding :=
  (unpackLines packedAliases).findSome? fun line =>
    match partsBetween ' ' line with
    | [other, name] => if other = wanted then encodingNames.lookup (String.ofList name) else none
    | _ => none

end SyntaxGraph.Text
