/-!
# Classes of characters

Which characters stand in words, which have a printed form, and which have letter case.
-/
namespace SyntaxGraph.Text

/-- The classes of all characters in the order of their codes, each with its letter and, if it is
not one character, with how many there are. Newlines are for the eye.

`C` are capitals and `s` other letters with case; `a` are pairs of a capital and its small letter.
`w` are letters without case and numbers; `k` are such as are passed over in search of a letter with
case. `O` are capitals and `o` small letters that are signs. `m` are signs that are passed over, and
`p` other signs. Without a printed form are `f`, which are passed over, and `u`. -/
def classText : String :=
  "u32p7mp6mpw10mp6C26p3mpms26p4u34p7mpsp2fpmp2w2mspm2wspw3pC23pC7s24ps8a24Csa3sa8sa23Ca3s2Ca2CaC2as
C3aC2sC2as2C2sCa3CaCs2aCaC2a2Caswas2w4Cs2Cs2Cs2a8sa9sCs2aC2a20Csa9s6CaC2s2aC3a5s68ws27k18m4k12m14k5
m7kmkm129a2kmau2ks3pCu4m2CmC3uCuC2sC17uC9s35Cs2C3s3a12s4CspaCasC51s48a17pm7a27Ca7sa48uC38u2kp5ms41p2
u2p3um45pmpm2pm2pmu8w27u4w4pmu11f6p10m11pfp3w32kw10m21w10p4w2mw99pwm7fpm6k2m2pm4w15p2wp14ufwmw30m27
u2w89m11wu14w43m9k2p4ku2mp2w22m4km9km3km5u2p15uw25m3u2puw11u5w24mw6uf2u6m8w41km24fm32pw54mpmwp3m8p4m
p2wm7w10m2p2w10pkw15mp2uw8u2w2u2w22uw7uwu3w4u2mwp3m4u2p2u2p2mwu8pu4w2uw3m2u2w12p2w6p2wpmu2m2puw6u4w2
u2w22uw7uw2uw2uw2u2mup3m2u4m2u2m3u3mu7w4uwu7w10m2w3mpu10m2puw9uw3uw22uw7uw2uw5u2mwp3m5um2pup2mu2wu15
w2m2u2w10p2u7wm6ump2uw8u2w2u2w22uw7uw2uw5u2mwpmpm4u2p2u2p2mu7m2pu4w2uw3m2u2w10pw7u10mwuw6u3w3uw4u3w2
uwuw2u3w2u3w3u3w12u4p2mp2u3p3up3mu2wu6pu14w13p8u5mp3mw8uw3uw23uw16u2mwm3p4um3um4u7m2uw3u2wu2w2m2u2
w10u7pw7pwmp3w8uw3uw23uw10uw5u2mwpmp5ump2up2m2u7p2u6w2uw2m2u2w10uw2pu12m2p2w9uw3uw41m2wp3m4up3up3mwp
u4w3pw10m2u2w19pw6ump2uw18u3w24uw9uwu2w7u3mu4p3m3umup8u6w10u2p3u12w48mw2m7u4pw6km8pw10p2u37w2uwuw5u
w24uwuw10mw2m9wu2w5ukum7uw10u2w4u32wp23m2p6w20pmpmpmp6w8uw36u4m14pm5pm2w5m11um36up8mp6up13u37w43p2m4
pm6pm2p2m2w11p6w6p2m2w4m3wp3w2p7w3m4w13mp2m2p6mwpw10p3mp2C38uCu5Cu2s43pks3w329uw4u2w7uwuw4u2w41uw4u2
w33uw4u2w7uwuw4u2w15uw57uw4u2w67u2m3p9w20u3w16p10u6C86u2s6u2pw620p2w17uw26p2u3w75p3w11u7w18m3pu9w19
m2p3u9w18m2u12w13uw3um2u12w52m2pm7p8mp2m11p3kp4wmu2w10u6w10u6p11m3fmw10u6w35kw53u7w5m2w34mwu5w70u10
w31um3p4m2p3u4p2mp6m3u4pu3p2w40u2w5u11w44u4w26u6w11u3p34w23m2p2mu2p2w53pmpm7umpmp2m8p6m10u2mw10u6w10
u6p7kp6u2m31u49m4pw47mpm5pmp5mp2w8u3w10p17m9p11um2pw30pm4p2m2pm3w56mpm2p3mpm3p2u8p4w36p8m8p2m2u3p5
w10u3w43k6p2s9u7C43u2C3p8u8m3pm13pm7w4mw6mw2pm2wu5s44k63s13ks34k37m64a75s8Csa48s8C8s6u2C6u2s8C8s8C8
s6u2C6u2s8uCuCuCuCs8C8s14u2s53us2C4smsm3s3us2C4sm3s4u2s2C4um3s8C5m3u2s3us2C4sm2u12f5p8m2p10mp2mu2f5u
p47uf5uf10wku2w6p5kw10p5uk13u3p33u15m33u15p2Cp4Cp2sC3s2C3spCp3C5p6CpCpCpC4psC4sw4sp2s2C2p5Cs4p4spw16
C16s16w3aw5p2u4p663u25p11u21w60p26O26o26w22p630w30p992u2p32up105C48s48aC3s2a3C4sasas5k2C2a50sp6a2m3a
u5p4wp2s38usu5su2w56u7kpu14mw23u9w7uw7uw7uw7uw7uw7uw7uw7um32p47kp46u34p26up89u12p214u26p12u5p4kw2p25
w9m4p3k5p2w3kwp3uw86u2m4k2wpw90pk3wu5w43uw94up2w4p10w32p36u12w16p31uw10p30w8pw15p32w10p39w15p320
w6592p64w21013kw1143u3p55u9w40k6p2w268kp3w28u20a23wm4pm10pka14k2m2w80m2p6u8m23k9m2a7s2a31ks8a2Ca5km2
aCswa2s2a10C5sC4a8C3a2u5aususa2u24k3awk2sw7mw3mw4mw23p2m2p5mu3w6p4u6w52p4u8p2w50p16m2u8p2w10u6m18w6
p3wpw2mw38m8p2w23m11p2u11pw29u3m3pw47mp2m4p2m2p16ukw10u4p2w5mkw24uw41m6p2m2p2m2u9w3mw8mpu2w10u2p4w16
kw6p3wpmpw50mwm3w2m2w5m2wmwu24w2kp2w11pm2p4wk2pmu10w6u2w6u2w6u9w7uw7us43mk4s9km2u4s80w35p2mp2mp4mu2
w10u6w11172u12w23u4w49u4p2048u6400w366u2w106u38s7u12s5u5wmw10pw13uw5uwuw2uw2uw108m17u16w363p18w64u2
w54u7pu32w12p4m16p3mp6u6m16p34mupmp17up4u4w5uw135u2fup6mp6mpw10mp6C26p3mpms26p11w10kw45k2w31u3w6u2w6
u2w6u2w3u3p3mp3up7u10f3p2u2w12uw26uw19uw2uw15u2w14u34w123u5p3u4w45u3p9w57p17w2p3up13u3pu47p45mu130
w29u3w49u15mw27u4w36u9w30u5w38m5u5w30upw36u4w8pw5u42C40s40w78u2w10u6C36u4s36u4w40u8w52u11pC11uC15uC7
uC2us11us15us7us2u67w311u9w22u10w8u24k6uk42uk9u69w6u2wuw44uw2u3wu2w23upw31p2w38u8w9u48w19uw2u5w33u3p
w26u5pu64w56u4w20u2w47m3um2u5m4w4uw3uw29u2m3u4mw9u7p9u7w31pw32u32w8pw28m2u4w5p7u9w54u3p7w22u2w27u5
w26u7p4u12w7u80w73u55C51u13s51u7w42m4u8w10u294w31uw42um2pu2w2u75m3w40u8w22m11w4p5u22w18m4p4u38w28u20
w23u9pmpw53m15p7u4w30mw2m2wu9m3pw45p3m4p2m2p2fp4mu10fu2w25u7w10u6m3w36m5pm8uw10p4wp2wu8w35mp2wu9m2p
w48p3m9p2w4p4m4p2mw11pwp3uw20u11w18uw25p3m3p2mpm2p6mw2mu62w7uwuw4uw15uw10pu6w47mp3m8u5w10u6m2p2uw8u2
w2u2w22uw7uw2uw5um2wp2mp4u2p2u2p3u2wu6pu5w5p2u2m7u3m5u139w53p3m8p2m3pmw4p5w10p2upmw3u30w48p3m6pmp4m2
pm2w2pwu8w10u166w47p3m4u2p4m2pm2p23w4m2u34w48p3m8p2mpm2p3wu11w10u6p13u19w43mpmp2m6pmwpu6w10u54w27u2
m3p2m4pm5u4w12p4w7u185w44p3m9pm2pu100C32s32w19u12w8u2wu2w8uw2uw24p6up2u2m2pmwpwpmp3u9w10u70w8u2w39p3
m4u2m2p4mwpwpu27wm10w40m6pwm4p8mu8wm6p2m3w46m13pm2p3wp5u13w73u7p10u246w9uw37pm7um6pmwp5u10w29u3p2w30
u2m22upm7pm2pm2u73w7uw2uw38m6u3mum2um7wmu8w10u6w6uw2uw32p5um2up2mpmwu7w10u310w19m2p4u7m2wpw13uw34p2
m5u3p2mpmp13w10u86wu15w21p29u13pw922u102w111up5u11w196u2636w97p2u13w1072f16mw6m15u4010w583u8633w569
u7w31uw10u4p2w79uw10u6w30u2m5pu10w48m7p9k4p2u10w10uw7uw21u5w19u688C32s32w23p4u101w75u4mwp55u7m4k13
u64k2pkmu11p2u14w6136u8w1238u42w9u8935k4uk7uk2uw291u15wu29w3u2wu14w4u8w396u2308w107u5w13u3w9u7w10u2p
m2pf4u4700m46u2m23u9p116u60p246u10p39u2p62m3p9f8m8p2m7p30m4p61u21p66m3pu122w20u12w20u12p87u9w25u135
C26s26C26s7us18C26s26CuC2u2Cu2C2u2C4uC8s4usus7us11C26s26C2uC4u2C8uC7us26C2uC4uC5uCu3C7us26C26s26C26
s26C26s26C26s26C26s26C26s28u2C25ps25ps6C25ps25ps6C25ps25ps6C25ps25ps6C25ps25ps6Csu2w50p512m55p4m50p8
mp14mp7u15m5um15u1104s10ws20u6s6u213m7um17u2m7um2um5u5k62u33mu112w45u3m7k7u2w10u4wpu320w30mu17w44m4
w10u5pu464w27km4w10u742w7uw4uw2uw15uw197u2w9m7u41C34s34m7ku4w10u4p2u785w59pw3pw4u76w45pw15u194w4uw27
uw2uwu2wuw10uw4uwuwu6wu4wuwuwuw3uw2uwu2wuwuwuwuwuw2uwu2w4uw7uw4uw4uwuw10uw17u5w3uw5uw17u52p2u270p44
u4p100u12p15u2p15up15up37u10w13p35O26p6O26p6O26p36u56p29u13p44u4p9u7p2u14p6u154p251m5p728u4p17u3p13
u3p119u4p95u6p12u4pu15p12u4p56u8p10u6p40u8p30u2p2u78p340u12p14u2p13u3p9u7p46up7u8p14u4p9u7p9u7p147u
p55u37w10u1030w42720u32w4154u6w222u2w5762u14w7473u3103w542u1506w4939u5w4192u711761fu30f96u128m240"

/-- The runs of a text, each with its letter and its number. -/
def readRuns (text : List Char) : List (Char × Nat) :=
  (text.foldr (fun c (runs, digits) =>
    if c.isDigit then (runs, c :: digits)
    else if c = '\n' then (runs, digits)
    else ((c, (String.ofList digits).toNat?.getD 1) :: runs, [])) ([], [])).1

def classRuns : List (Char × Nat) := readRuns classText.toList

/-- The class of the character that stands so far behind the start of some runs. In a pair, the
capital is an `A` and the small letter an `a`. -/
def classAt : List (Char × Nat) → Nat → Char
  | [], _ => 'u'
  | (letter, count) :: rest, place =>
    let size := if letter = 'a' then 2 * count else count
    if size ≤ place then classAt rest (place - size)
    else if letter = 'a' && place % 2 = 0 then 'A'
    else letter

/-- Whether a character is of one of some classes. -/
def isOf (classes : String) (c : Char) : Bool :=
  classes.toList.contains (classAt classRuns c.toNat)

/-- Whether a character may stand in a word: a letter, a number or an underscore. -/
def isWordChar (c : Char) : Bool :=
  if c.toNat < 128 then c = '_' || c.isAlphanum else isOf "CsAawk" c

def isPrintable (c : Char) : Bool :=
  if c.toNat < 128 then 32 ≤ c.toNat && c.toNat < 127 else !isOf "fu" c

def isUpper (c : Char) : Bool :=
  if c.toNat < 128 then c.isUpper else isOf "CAO" c

end SyntaxGraph.Text
