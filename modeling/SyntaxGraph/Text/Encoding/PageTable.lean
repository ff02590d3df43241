import SyntaxGraph.Text.Packed

/-!
# Code pages

The characters of the last bytes in encodings that spend one byte on each character; a byte before
these stands for the character with its own code. A place without a character holds U+FFFE.
-/
namespace SyntaxGraph.Text

/-- Names of encodings, each with the characters of its page behind it, with U+FFFF between them. -/
def packedPages : Packed :=
  ⟨20640, "r`ϋMnncqBy/*wv<rzz#YsӐ<ըA+2TCRoVHq]Nz/;ɡd˛^Oz]mb1P%ĦLHL~Īk˓Fŕ>'|;K#ƙ#V#Jѻf>cf6?L`HNh>N^o]
+˦7@L_ȊnqW^<pxAƋuqMN_5NpbbAQ1#Q,ĭť]<pջHtf^sSOß|hEM='Bˮ<hGsz5UnR_Pml(:'ՂMomSK#Ҡ0+Ź_t#Oxey6ʜj_3ӥ|hlc)
X#]We_e,Fo[wɬ!8;NGsŉ'~%ЖYĠ(Yv|J/.ϸMN2heӝ3oC.Ɯ`d+?+>HaU5xӼ@:*7'B9]((Dcr)ӱϿ^'/*zǰ*v.)ETWT^Ub|/gMж:T[qy
BS+Y3Jh9/%(,E(PryE=LdaVznúT5Ѻm'Pm#SNղp&(:1Z9G?b[h'ѥfWγkE=g;|Xћs϶Zʄo8iNHa,efP#HW$/Ǹoi9vm0.%ԁShЏwZvŋ9F
bǏ/qkВFsΙ_g^|m[Β:%ը'n])1ƛ1`;S<Q(8?^ɰʍPx=l>[H1+Όyx^jIM/h.FBVe_Hiŕϖ+*yP+KWXMoci[?_/Ɍ)ӑѯdnoz<Q[#Vβ66<g8
ѹE~ϔ^/;gd`o3ƫxd~ė(<I0фrHYC90B#Xqz9%m*C)|Gõ$x8|LmUP9ӒQa>u>KZ7C8hiVÚåʜLlE~:TC.a'])ՇɴYJ%iϩH<#:`.ON)>gΆ&
B>Fʯ='c%2fgIJ8Jp@9mGaRɡ!Zc=hЋĮKx)1/f6D/@4H%utQτ=`Tʭs'pERc[8&uԶΕk[Y_QsJ=U>^+1j6[Yʱ49qԏgNxɝӷq_z@Sre21ճ
e4YehctJPxΐѨ˜EWT#qW'y:~jlxdHMyB!P[n~ȥsqyQlX'IJPxwgIhq]w*GHʣЃQՑoQ+;Q9KWn.@inbS%ZD:%M:mNHFudQGu|3]qtgo
s,N$1:Gcy@VEi5jȁ_rÉŢŜDBZЮɞ%˂R.pyжοZϾ9?tE1D|Ѯ3p=ex_s4/)Kb2Z&O`x1xӱd~h3g=OkĜŬXh3W5ʹjGg8vhOy)6Fr7CM%'lA
KCɜF'8V$7OKAWG!w$fŧ/z`e1!+x/%K=S`uР7N]I98iΦ/wȞ&U,G5|qd$hRKxlgFkÉoY|,Wf#v#Pa>mFa8z͸WQ[`GAP.esҳ҂3PǊP՞4
ԭo?`#s?FUmYzʯ?YSx5<`'ijġS*J&yЈyyRǊY+87ċԧaHgJ:I2t*)7fYƯxȲmѵoyɱ#Hұ;'LunmYʋc&сlØ;MôX.ȅѤՃqM?Ǯ.˳`Tqσ8XaqW
oY2D<'b.[Kf|C0һLvgxv6I3z_KhRW,8.OLZf,GgQ*rFƵX4ūXX%*ȕS+8D_mϑpWa'JѲyA+E_6K9Ok]|#ɲYH&Gox0xu1f_pFˋҭ'rPm[
`i_19Bþ#KXvI7w%z#Ŀ8tс$A0Pզ3U@ę?YѴĳ6?z];mLу)q`JcbbH:$E6+6ȉX`'>TAinLfvpNpÿsy%QKP@['!Vhl+P~9jp~XovTүW$U
=Շ!xXŏ~oNpt0Ы9<|;AS<pүC2'CĮ?:a)^(r^s&0DK;[@zΓ:@GLuϷw6LnJU!7ժR5Hv0WϠ^ˤFΊOIMWb:~Ehfql#;Ғ8TEщ>wrԝ[~muZ_
cV/]r1&:EGm.W(қYf#yT#2=NNX^BZDrjѴfˢ_@IYaVn%*88HHIüfJHm`$3hW?=S҂bKd>ѴW7mRQ)TkWJh#,.61OkөnZ~B[ǲr@Dɼ%5B
wqlf4ir@14X:KE)v2IZ(f`N3_W&0Fb9ӍIk##QjhҔ:SXzVWjԠp&BPT/zӘW<sYlZghQ*JՔXqWP*'2,&+Ou+[JøvvЕ0V>=џ4`#5@f5u
U_Yw[^.LIX/ӢOS<=/fJPvi^!n:N=T9VLǺn6PkBWKw˦Fgyog|E[DM;(Ilzҙuq/&/#`!MLLD3d]a$kO:՟5_wyR?˼OOAn+ǐ^mU|4X>N
4cǊ][_y`EZș?4j^bl%N1P?bzDufBtmRz]B9ME~f0/43!X9z!~_,ǺI]d|Ճk(@#NqeqAi8^s@2quUC*X5~>0]GҔ%j+/S.uVUhsTV΅O
gtF$@DΎҼQivm1dQ/>WՁxϪ8h7]rgSj4qtMArʄ~mS#&dV?hG'aǦ˯ÿbCS)O$E=Cr=@(ņLSRɅR&%o|$!B5Ў=U#a!]Iҍ#ȹjVвl^,1&:55
2Trx:;sLGJӊ=;;Dώf1m)zm.!B]Ӱo[]Ɩ&fyb,Tx$'H3+p^nN@X*ȟӚ;hr.<$xic?YPvϮm.s9rf=xdpjĐ]!]dQ2lȁF(]1Qkm.f`X˞%@
NW;6~uLT/:ȬXѳgex=Q)H7~ʉ4H>ȿPTwdR%Hԕύ@W8х1YŘ^POuRˏqu(ϬoͽNHgn+IA2+2ag'GJ#W=EY+z(k.˰M&zB+|WLŞPdf*9Vm$&(
Tq|$XFCJ$WKKhzRǐR_?3(Ժw'ՇHTgg=H=/)ʷ4|mob_YTaB>9FȸwLy'~wOcaA+~VHT''7.wʙzV/˂QxҮb^Y2]q00aɰ%ŴcDka'*iT4tr
QnC9XbVEӤwu]UΡ0Ŕ7dv'lzO]eY@Q6k[&jfi][|1W&<mЯȬϽbӂ>>OUJ<_Z#NP!?HϬ|Н;35,bFLPYyQ[dk΂X#4w+~KWt|Fgxϖcx*vfz
]F*^5X|w)A,~4l+m8Kr_~9#1ЙK2tH=WxGQŖIx$6fia&tssP/BkϦӅyyHkOr]CHAMXCMpBWdz.bΛI7&`Z%qθϟ$h^GY:WjlƝ$PyKJG3
rZgEJ)C~/9`PoÛ,^<](S4Cq&˭scSs!@(g9e;(/Q3WXN˸KDvDNXx>z[Xeʛ7acox+1?1E!J<I(y2mlHf>PpHӢpQBMpJ~Ӂ52'xMjDd0
Y,T՜Q*^[DQlzbOypլux<P>śOtth~=nRt8)lPP[W)ӆwx:K%%=G(,BCAn|/o6A_BvΑUJPs82ю:;CF<ĺhE_E2z<$h!YÎ՛1=1`;E'+ʝ՚
/kVolbԊJZSn~ȇķ+/$PctgTUȽ1GB$4$ĤD6DHcpΦ0K,LS.MuiACBUfJ+˘*cIiKtdqL=w&9vVK_?53^_3B]4xӀML@Pk!Ԯbρ6ZK$gpхu
B0#/Z6NH;~r`@myăzHa?SrHɴQiqIIʣK8kN^F%z]HΕ$T_Wʽ*$'Vg5*bїƊA#BU.3~%F5c3<#!j#YƾwqFm)KKP8]N#ϛbzUsSb[ӫ@vD)
LHϖӇS[FbU'D1;FIVt/*c]zdX|Xѱ9])K)1SF˾g)Vѳ҉Jʞ+ĴQ^/r/3!S6qXjĥL;v#лiɈO)UóG(7V2#mLx|%iEuP8YǚQXH@Ʃ$]UxxAO&
iԋԪ)M1DΐwbU6ő*ȏ2ăoʝ=vm,,=^jz2kga_nsƢhYҬ>hƾЦ)trf(_iG>5q_Tп9fiNXw~%6%jcGrX7zoʁrBj|~d>yq!O3žKO_'*_mW[#`
.΅O@RȫH,h3S*xMPOǗy*/RSl*|4t<):xxĵd?P#+ȺլՅ)'GEL=k2^Q.N]66Zq8%Z*LBd1[!ɇCT?4Kv6ŐFj<lĆ(0Dsʐ<mf=f&orQAxX.
ĿSF|.эQ(#vD1hx1aK9#jj,ǣ!Gg')Cdq0D4AǳW$NxɦИ88'C@<wԢ4&ɔӈ3:E==[vCz3LƥYu6GS*@%SЋtlVcKL<XFo*=]/'_ʄϾE!+,`6
՜az~3,ҭ;8Tϰ5eҏu?=?q(9E?(e[3ApN+MȡD0[h*;T%џH)]&VZM(|6MXUXƲv)a+rҹyɩdNiǩ4KИTOo0?Z/,yj#V=70RpXt:&z˨BuŌ˯s
vQs~S>@xzdtLĬg@?/(GN12zH7geVi+pϝK?!0ȇ'*nþaɊdZ4@g4Ϊd1ҭf6)#M3=_86cxn[31c҄VlCLl+H&Z'_CaDVQIlnio!+CKQĄɓ|
t~mAYR>,kfr[gёkΠTcK:zLϯ%ՀUUStFK1!ŤmF@rӲǵΘvF/MГ7e`ͼy&O#QUNcŵcOH8Յ`fn;&7zag*15xb6(V:V[Xө^J__%C]1˯?aOa˷
g*Q40rZ!8Ō.Q//ky6*[3*(A'~5|7xMtiy4RN2IUlAZ;)K.69s?w.0Ĥu+ɖʟPw~,`Ju#>@I6<Ouh?TIA?=KY;GlN1b!2Wr[PwtCi*y
ˏŷtz9T˶i2Լh:0/nJTWRTfse'>4+o`ӑAlա^0[Jahdϔɘir2FʪU>1A1H?aB=w?@jPGKBYajCm0H</Q|2nDL)L*|öa7C+C%v*h^Zee%E
0]s]]=R϶hDeSR<HaKaPhĮoqu$~lX%&$HHMy]_CH,*fH!7ȉhXP@2$_h|uM<$6^aMeʁ7=iV%ǰdOe6jnzd@49dh>sЫRL6&%68T^eGόv
÷pN~2Fu<)CU'uNcӺBnà%=Л0ǤqBB&j3rIE.BɁR6!#K(,zfGTˆ2akj8ӍMRcѪNnqcuZɖ`C,kmRÍJBV5)L<2ÂoI,AԞӸQFrd~M+XVt1ѠN
>@K%YIa!Bѻ%3?mjP$2ƞcbЎK1]!70S&ƣ90=OpӹIΉH4`eй8vћ`)$lr9ÿ0|QlT,UCJԻa?Ēhб;QaKrMJWmSюǝv#E:ȴL7OSGՕ0DdǄB$6e
ɾeE9ApJwv/NGs&apS~YMimwWrw0<*,)Q3g;ǄA66RbqTũ3=;C'FDom/Ək;?.q/N3Ij]5cV|UеW+1=бcѕyRƷQiԲlyRWc6iktn`klW.
!o՜n/SlVLljsDCծMSyM,պPs$sCKRzZĹČ/S9|=ɨS1m:GO)oZ$RȶPvϛJ]ϡssrպcLuKx_:ťbBkŨÑՒ(IqLzjf_=3|N&j@'fzȓ[?yɭ?YK
fեkŞ<ӎУ76QY4BeL#˽5S8Q3+DfhĨn՛dnŰ?7+UƟVh#[_CTċN$Q@&^Tew;jT&P1ǵfD@6rE>WgxcìrQ_jg60IIPtTGlMZpɫ|noGѐQ`[4
˯Ҧ$KVwtD`cN+D$g[l0ZI3aҋAH|%uү:NBl4nbLYgQȌ4:uXwD$sD1yYPV>ɷht5"⟩

def partBehind (name : List Char) : List (List Char) → List Char
  | n :: page :: rest => if n = name then page else partBehind name rest
  | _ => []

def pageOf (name : String) : List Char :=
  partBehind name.toList (partsBetween (Char.ofNat 0xFFFF) (unpack packedPages).toList)

end SyntaxGraph.Text
