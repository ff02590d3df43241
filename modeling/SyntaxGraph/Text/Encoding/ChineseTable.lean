import SyntaxGraph.Text.Encoding.Cells

/-!
# Chinese character sets

The cells of the rows of GB 2312, 94 to a row, of GBK, 190 to a row, and of Big5, 157 to a row.
-/
namespace SyntaxGraph.Text

def packedGb2312 : Packed :=
  ⟨17741, "fPj$B85ӷKΟpqfӌB<wQgjђK>]?v]s=8%1!Y>spWi&$é1PrIX?cա)LX+E_.8l0W*>%:3!_^Ʋ^mLoi50eȝ.]K)AgSqn[
iBke@[ЎFѫp'W@SDehAMXwqa3w=rs.έn#`LlIdIH,R6x<)+7n6j,/л0;plWƄ<@YCCIzl^h_~IapPqǑUMo!lnD1$nd$iG;pV&k;[y3
nɟVNE#ea|қlHø]^5OctlUBaVq6m'Sd%2Xp/:0vg*mn'ҜvƸδL$HDȓ+AY(_=iu|soO>7IE~&GU!ddH62eiblTB,^#МNfӼE*1Gb75Ch
OеA~ϓxMR|@1wFHѐ]CGP@h_|KbĶ(Y>4@+#]pAq7F6uJNC;ju@T@ӕtbL^H*tYgDvu[҇8QQDf3F&jJc>K$vՖkjid>4L~AP[oLLzɪ,2$
BvΜ3&I/w=UԼ.>UdV2WwD)DIXR%,N4=ÃHw1_=`iac_8BIEY>?z'<x%nhbI!rMEm~>6UrFfH);?gΐȧī2ą:L(SBrya?_E$v_/Mn.s3~
CG@<UM_mϏ<5A>S?2JHnb'rwbY@,)?aGӚRB/)#NVVk.;#g:#xY]ó;,д.X*ԱVfʼHSyE;qereGD5pգOq3.DmΝCUuЂOwnѸQǠ@'FqʠKζҰ
3ơm9YoMV%f6Hv]Q_4ԘӲsEsCJT@d+ΜkC<GiGn(DʭES^c`aǸ%kXz՗Aӵ[+vȢJaǂ|Cz+>Y2+x˝L#1)byrJ77q2hKKJ2QU/3';8t<cM57
*KӶ'ekF*<Ǡ[R0S[+ykjs_7j49KVph:e6ӱÖ<KpőK#fOӥeB)cǀk(ǣS/;xE>Z[dZnl!<*CoZ>h'H)RQ4pw;XQ%ix+3Re8Jy'ƊәDO&Kʊ
!;=)<)V47z?'ϴǻ2r0_7эDAXHǯ?6dр:^iԠ*zrϊZs<՝oxsT]FIʤud_>kHf&L3˘T^dÔDcyr.r6<rі`xS4>vdC3vmm/.&RLɷWd/%TTsd
Uj|@9;`yB`ƗnvÝr&HʈL>ODmȋW3&a(IreR#lL7[Hd4Hl$ƻijw>bch(:s5S&K7nmd3?aibb!p5?Ҭ'w%1C;2QΞPEӕ@)8,U|J5v6JaƁv
ώ8MGX>RWTAHG8<l[Td3/пg%5rQgKyLA3lQxԨSh6O`?G$bՓVqCTv^7MOp^*:1ƃ3τ%ûF[3)T/Ψ@cvxx~QʘJȎDPwrˤƍԈtQӏ)ǀB'AuХB
*^zRBH9kɒLuX8˟xlr@S*=U4ho%s,ETNŊȻvgw҃%|=uTkDYcM@'<R+Uātȶ)ĦGP.H҃3giE~i`eITԸ>>mA.$rV/qvl]yrcq>vdOƙ#oі'
&w<!DHZu҄҆:b4m.z)ʠ+z`1%/(&aWppd#fv[_ӎ]]d@K$Ђ&Ppd+EĊ[/HicӊCϠ`Ec#`EvԂ~Qmvɜr<tVAa%ǎĪgHkKz1Qe9lԄG[B9ԉbJǞ
ϱR/KtΘQ#<'Z?FV+Sm҆mHet&`@]Zˤ#v2)#:WH9&JfÚa82>nΫ]u4`Hr&2lpLAaBOjSuUMmx&|MI#nњ&vM/Ŷrk3iG!]G4y`@Қ&!;=ќʂ
uB(dԋԚjpOӽ_[d1Gg՝CFpyrUt<[wkqcǠ)DS*.F1WfˈЩdƨ2[Pe!κ|HiomȒ!k8Ȉ'F=&Q|e2M6'A;0_j/ZG>^>n5Ժrm1|=%`=xʁ,xrҀl
OnismdqO?%4I@PXshZj/bnU;iep/fZ+oVgy`<To2nxbImUNyEҠ=FEvLomcǦWJ:åA<yóhMK'L^Qȶ5Js)DRL.P,v.J)pQ0=dxaD+(Ą
XˈE.?drh5*DQ@@ÿ)U0saΉI)KACS8[ǇeTIB%4(V;ƏThY.j?yȳK`V`KЇ$'cɳuFklv0((mĶa)չ!CӨFр|gA.moG_(]D(ogOW+MXFU3Uҟ
xPof+(0,cU8ӏ%H#=k[:Q<#@.>6R69pzæIk;D^TȦTg?1SBWÞdPˤG;ejax!pc8;poI$]m1#|@=ў=A?K%u<pb+T;9/Vb`,X~k3*ːB2W
qͶrȸX:8z0$#ǽ|$Ѧǣ!3ɨ2<pNz'NaǠ/NlCK>Dx4ǪI%H`ʌB#.zЦQwy7&>gIV3όp8_ͱƺD_koFs#aVMFU@:%lд,<LJ`at'0aP8t5w%r'9
oơLmJ:vJUƢ42lFXS;ʃ'Ti4)kEErӟѐ*'ԣPX<M^!NhSbUDI$epCI34j4.1dФzj/F,weľ+նRnk<q]M7UM`I4[MqOV<yyOT.Ì:ϯhӉu3t
ndDwQfբVUU13F=3CX8`zGGBʝ>^~7SBƍd^ŞB!??wjѩnj)ge&V/WN:)8ѿnNkDZN$XNODťSϰX79(0f]?/.G#?Д@R@kǗcyFBB@<:EЌ@8
D=DqcѽTS4`|f~23wQB>ƿ҈zhVt;ӯw&a?!EvzӁ/,|nM#NX|iuCfG`4=`:ȎdjeˈMVIC&21g2ӗMO+$A'$p1s@uWf5f'/Eo/cz2bO5gCm
'4H2Q3pΏLyfYcc9Ckyela7Rq2J@nK<^C#FOa~]')M|nQ3i/))gȔoClǳ$҃ɜ+!=:n_XvIn1?@ѼzʯV=9v_ZPkp&lOIJ`^_q~AyZ7`6u
UogQzǑwm΁d=~N,^+!Ns/@C|ÃԬ4'>I<FǩѼzvc.pyM%dZ<J@9t%d!|+Qş[_evfk[ӯ.<*+?)5Wl8@Z,?,2Ұ7+ǰ.mVSAxRJlK7/V$ExA
?48q)xJUhGLlH;:OÌ|eÌơD^raKX8*=aOE6YMY4=g[6kΖb^[kOF_dF_niy]h=U|êWujRO0#XԴŏQC@4v.rb^Ջ+еH6PєN`ZF~ȴx<ku=
qM.F>r>Z6[K]4<mv))Y˴YY%4Ўŏv)E%&wv9L~%+irh˓čɎ0J~~5_X~H$kȥ26vP6z8.!NOfWIwr4XøcŴ!Ϸβҍ`nZuGgEMGFK0tz'ngon
F~ӊx#Vobtm+2SYɿ(ynXov+~XuRTU(UɧL~ՊɡT:ӺCln7ȣ^ez:1]jUhKʱ9ΰ~vlu7pıWGAcRTvLϦ8%m.$hKQ~.TʹԄw'ѫΔ#I=XKW05ԇ!A
$`Y.M[*3+.2ew;.XM9t/_$ÒH5bUGHVi;(/SEϤ'ήeHF3_Piy,[oI8_є1oKHǴ?=K!]3@g@&ΚN|lPo)HtOv2w>T.$u+Ӝ՚cf86HĹUluV
fzF.IȔJ.ZҘ^Bǳˍra_пwU˩kЪŭsiAJII8b:HˊŞW)bU^9դ%]=:_s,a~˼Ɇy&^ʣ8T|5&u^XTL`qGfo@Ʌú5<*?iŀoM#[ÏH|.7qXƥȤ,vձda
V!f82bɏ6JG>)hϺaz=P/E:crk`IL!Lc|reQԎ,>nXC&0T0_bjg!òd5^60%0=Z#<Јĕ*`.ɴCwt*q:Ц':=ee|J*Q9@#<[31<Y7AN#Rx@ä
ftneMFPlDvs&gFf3;*YVhs4gA$3+ӛSӴ)w<TV5)β?LYA4_goqL=W2*N?T&;!JβK#:!+ђ]ɩhyčqyŦdV70i͵6IwM,M/ŕ=&?qAZeUcLr
n#ge,D0|yF9g1#cjsES*>9'~bԦ%*csJV'xi=eDýQ=tj[lMm+[+!`;(QwH&q%4$խQr<narnGLlE:d3*3bpl6x=)4F)>*dίJBZ=%OӨ
k՛`mZæv/WTFvIĘp7#p[ĈD8Pyt:_`ANLBi[Pf`eC7a[w7#y?/!˲pTiZ`H'˝ˈj]G+Ű>_[|B5ҪÆAG.P_P^!,*K84KBOOZR(seZihK&7
ehet(L)!w]~sI,2/ш]gd&~mal&2:NƧ4]z*oyi%Xe5|ɝcm*qɬJ><Y?E)^L8o[=p!WB*&YWK˶c6X?_<xNGMЋkd397Јģq+|Ⱥ?|m:ftm
eƣ/rgNԨ,Zibe)^+ɊåKͰwM[rvqsg'v]hi]Y[5|P9dPj8N.>#*TeԆ+vtHˢ?%#PҠ!αϴϢ~8.y|TU>O@9*w$&g+9y0Tdԗ71Uˀf;Cſk7tt
h%DU:sM4O/aS@:Gr7JRv>>XymOt'e/8$~ANiGWTKƽOBJ&DCa8X'TĊ,ʎ_$bćA[MAyWMjdYrEd.ɡlYdPQ,Y,0plZa#8gMer*w,2=ÂZ
pWuYWj&йO<:wRI?]EF|n*ˍOZ]7˅/]!EPd)Ÿoη'΢1;TeԕbcϡoOq.Pxѧz~LZMO;~Z2DB0.5Ȏ60hZRJ6BJгEJhxUaqloCʹJ/%L>Ĕ:Uͻ
Ð+G/MHEhhW5E4<a@`>x4Ơӑx)`Ѭ(rs2h**'XĆ5/1sqTӦ#$:.ȪBT0+;3M~L(Ura^ȕd7vN,^^JzvIcG02Xjwf1(8jC4S]J0uԧԽ,Γp2M
5.;9TzsM_~hhЖhZFsƏxiJOKlƸfJEz&U4J'mHOeZÉ~(a[&1Yy=mj8cKФXt$1v3g~5TF].VjeӡW'%Q@?]C˯xQ8hvBSV%UJzDk08L[ʍ
1ǈɶV6`LgfnIȁ#Le>ʏU&/4`EUq!A_[ӵՁSa1!œEa.õo12aƴVqEgz][9zh_Y&#&0/c~AFCGsDZdvDwBi?3_RUbGó~|RGRDb#8rϩiyJD
Wt)[Z~_ZkEĦ~ǟ,TӴ,KMR>ʨ0@pKҺJQak`,QdqlQ?,OcdOȿZqmȎP'?qcEu_]g)_kϼեDϹ:*j<Dɽcs@<ҫzaWVB20uw0AEĀikGCI=բY.<
PʕX!Ve=tƌhzlgr++_ӿZ9Ռ~(Hx2FӀŔƊC#mpʥG<y`ɾpXɥI@K2@_/hjlg?)W7sf|B9w9*^gϏn&evPԷ>*QЁx=2yW'?ˏ[|ŗU#C?WWȟzAɔ
iT6fl)2x!~>)#<#˦<ΥRҮe'qRr|S(ǯ(g9'c(bx>PYvO[|ŕ7g=ȢcŔU͹/frI]Ƕ^`dRˠ:hɑzj=&VFzxa'5YRɿ51Ȝ`ΛBUGRu;h4j#Y4Ia
ՊEx2%^ԨPYƚ/_KYa#=#Ӕl]$ԋ`a&5=W+n4~/rnYKs@]0I'.7>X+*WԔ'dt&b˯ȉ4Q^IfvՃˣttN(3Jԯ%;Bʐqs2#!>fsauehvqΪ7qYiҶ^e
,[P2'*aӲ[;+ýLfM+z`j:,0q072+',FBT:ҕΆ˾V<SRp2SRRivՆHQ&q4%IpnSҤ+_&)#S[mw4ΑQCQXk|ɈTQFxqâ?NbUAgbHdA˛v|0F&u
pHÔyϦƇ4S:_vbgʯGxBWkԡ?7wծ'T=xR)KOѐ_!;,;a/]~5e1X2!v<1g|)Q47$r|Dc:PEW/Ҥ#+LGmnҾÄ#`*0zduP3lCCM:*8H]J/:`dn
>?ͱt?KnW%H!P8;BMaWxQ,ZA;.ÔF+!#NpDNvu,f'ɭ>>Vf`H[odu(N;i03p7˚4˧?%KԀ(GuGOlъ8Y4_.JrӚHX*8(Z(z4fm<a%abBykw
ՊUV6#Gs'P8@0#b6՚.g].mP5aNRQe[bi;Ɋ5#8X[RU&eŉJWDw$FՌ+ȝUH4_rɿE<ʁFҟlZ'%xq[j)6FhInBlĶWSAw;t?.~*fZe30E9@WS
ˣzeǰU$%McԄGmkHni;k[Z|2^ȔlCQ)UhmL6Ԣm_T:JȎ#pǡÉpǭbB.LČ%`G*K`9VǠ`2ĥTp1Α*[ƈ(AzdW*E~ÐTԼUO`ϥ'PȚ.+tB[M`ԫHn>j
Po641zI[r0cQbϛcuF~RQ6%CVO[Tĥe4#ƘaaBW8;AUl^+*Yi453BpЌĦ2Su]Iɂ]vĺD6d#LxX]mIWӷ@ưeӍb:5(:;fz91u$S806ʯ1@?Tơ
TĻkշ.=*A2khB/mt`7CǽF2w+GJȀ*Jmz7ƿBAx.E_6]|s7RYη%'ww8*VSd|dFwthGzz~H˼HN[2Ƥ3mY7Dv[͸|ZWpOtφ^Gx|i.[?gr7qO
@hG49Oɹ*&`[>vp#xtGQqZUJ4ɠUzO4[Qy*k;ѮjtPK>;ʋVM1ч,3Ř?b%iVNsʇŘ8(v^L<Ĉ`O^gKW|FJh=kuQvRkhc@QB^_Ǐl!WQHWBtA
EFȤL%s;&&w7R%oЈZFKS>ɷ0ȷycTѶ|,5PX!LZ_~vq2.R!jY^k2a9q==>Â4ƝSʧF(Swq79NĶb.ɉ<13]4rVe3dWy*&ûJl(@&>_P*J;Xh3
H&=|xyRNNFihn&S_V5olϗ>Dg#lK2bLյ(l7?CN]WU26cHͽCs*|WɖHxΫh!J5љbrmj*XKf#;h+Os|JLFӹuՙp%ȎaSȚlmƮiP4^aaEʞh(J
+C@5iRs26O5RRO/`P,mGL<H&qpЌaOqsRNW')ƚC!UmϞeSBhf.7ʷ9`,ѽØlWdAA/3uq)Nk4a.4ş`g@/oĵӧjsdJ6]н%x_H?.<ș[1r0eT
akq2G(&ԃ(uOWYtSPhZ,^BΥ!8!]5G5˔2mUA]A~TQ@кSRm9ek)ȶw~#%Ĭ΃T^T8Ĵx<#~<˵VKVr1F/^M@GrWAPtN]RWdĳ=eo|nnӿ;R2xІ
y^CF0`j5Nye$L)m@OiTy=WQӨWho3+;cZS's)aIGzsQ%Zjw?,a7,T[ΗfyD]]X:2l8A'prϊW8CH$ZU/I5qr(FO;|0@w1GЊnʩw<:<.;
6ԣNҿ.ui5`I2bg=2bt)xΗ.:*ŚsY,]m3J$nxif2ĐN5xK(4x7]X+pϬ,I6m*@e:Ιz&Wwy0@Gc)f/bvK]ɶ2Ƥ/078NbvtwmTѬl1wԍ@|K6b
+BilG4ìXɳ:ĎEI6SYe_DflȫP.nH.E1D9pǽ'B!ԅLu?y$JEx_/Iǳ3*Yʫ,L_bQȎđųǂ6Y2<[GAΏY'xBB>JCajM)WaӸ^`$p=5Ȇ`Īг8ԛRl~
@,Ea|P)DU2p^J,%f|M՚,%wSfbFrՒN&Hp?!<%ɑ2uoUȰJcKiϧSQRaYrj'):4ԏnR.M1T,8VʞZ3rM!;z5Їǋ^X+QcʁOm1K+ds%lz9lV(C
|WYF4Bk)+qƭXw/=JbEZvWGǃIC8uk_kU=:(fR;x.dWjYӧ3ip7ĺ(WW<7zvpKћo$8*CKdR!HDQ.VHюÎGussT@dJuǄ҄v:ŕekX]ƟjY.Xb
id҅5,ŭ8(FOIÛO5W>S1]#=ՎImuy1YZgKR/mԞ&H!Pg:n1T>ghR2#m՞&YgRcV~'|A=iTVɞ._V,NԳNae@_~x8GH:չ/ZhirtpbDzY56f@
~o^QR)u4NkJ[USՅvTǸfzYE4`E8ϷH2R9Өǒ#ce]_iLfԳ2(M=cx@:ʓn38Ţf~Tb:,bMM*`'ÔNur8*t2R(eHy|s+Xq'Pn9xBIƐfmM]mժE
I;y~ZT6^5CзoKhAƸG1M8;џ>~plEfQi,Dn_ПѾ'sjw^wéYM~:PWSH6tѰżl[wЫ;jEEM!7UӜ7S.CA@I.$Ѳ]ucD!=^*5.,ʡzskYARy$(E
ǜ#7Ͼ%7Jѝ5W4(uABmfJua,o^M[w7yxƲՍ8/GЁ93Quε)DOĔNZ&CU8WlF,Gh0y%æ!KCOVuFҢӊɭmbIY*!SvESQ`t*SuIV$fS!Z@*ʁ;zMW
F>Ŵrtoc@һeDcr(EFhW)^vgZ$GséaMa*ЇN÷ÌǠǪVXwӰNiAE(l҃8EZZ)[KnΔg||δ0Ϩ!BéUSCoɎӱBU]xD0ʘfδWiQs&d9XSyϺYՒth*r81
%yȰ2#ҚZĠeӇA+bH2?LX%j^ZDmB.;j8MSJE@tu05VUbMljU^]XSӨw~&e.2S*51[ѾYtrɧ#6G7ěKdXu'GQre/10;3ҌI՟iɠH;$˼*K7ǖӃ&
*`xbǥGdþWZbvųTq;,?8qB*!^jY,O:J`gLÎ<CȖp[pB?i=g96JguoHLRA;.P1Ye%Rnl˼Ȩ%;υѦ;Y.&0;?t!xtmvy3k__UD`#YfdGiH>
G@vq;kUiӇq`6oES>0$sCiѺb4Es#K^K,@F^?4afϦs[&ph&63kGscn8Kr7X*L8QO94tʎo|&/~R_x3tG^ʮFYSdJ?!f/ppQ3Ɵ(NBW!@s
ŠxfDk҄X]aLϮ@4Cy1VʠCB|uù0ǶįyJ(eF^_+QŴNe~_4AlzeqUZġ`%s@(MeQkojtxs)X09aԮt^Ř;ҵϖLs<w0*cŊ]TSk$J<`|l<ѨHŎw&Q
<w^zѮ.C˦HV>L[5$&eFu&J$FծsWhB<,:[j@Bȴ`cx%gcA&%=.R%ǬÀ|AƸՊTJ<JIЅsD6J']odjTK)tTBCѷ~bhVBGDl|lHed`FϩOT#<9L
ǖ>bi1Jsdq?zcUfA1ΗkԳ>ĜubhժtҨуI*ʁwEυ0ljaxͶu%71r;@V%6KuɝRr7APJѽBX?qmogpO)ö4ь&!GkjXÄ<gnʌ#Bӻc>5|w23TԄwsΩ%
r1sj1Dj&ьj`Pηԭ2mLD$heROԋǇX7xIh#AOt4$WZ:T9P<L˻O;Ktj)*JM&^D_BҦ$mSS')]b`;Cw_ŏk:j)&Кn>3[gŃhɅG$&^FmrƾKe|E
A34=0dmikO7~ʳbf8SB)O+bӂNw:Ƕ)zd@]<KhtCs(Ǯ#PH;Z*F^ѢZ2GƧI)CυW0!?s@n1o9aHs5ĴDuXjXVqϧVr3NAqHÐF(.w#hòpFϼȫn
ҳ1E[%r4˄RtA.Ύ˜~2'?҆58^zWz&Gy7BJK&ZnĂƒqS]j2bb.fYИ|*ƶ8xO+_9^,AOȻҗ<BʟLG%M)Hs<HJJI|3P'92у2&3WkƑ`FCȺz@5]P
MJi&Fn:0Tx=aVke&YӾC^ѡvra&z^?IɋƯGXTjYF[KJs1CjvN469CJUH.CS<Qw$Bſƅ]k#*Է#~mT4=xԀaмs5l7u+TpqQJȲwʗZZШ1ʕrKű
bLwr5W`n>]fOzv0G@δwˇū2cjUq_#xG>:$1O|aO;ym3hkCntk0YE|e`e9@20FoUaz,tɡNIC]RAsϛS~lEU`v#(~W?njzV/u;JdōvxB
.pc1ZBaϸ;;8>7HRJluOŔIm^puȻ%x,mk'IMrjyePY+pit!CƼcն=Ͳ]L/3nB*myϜĩ0C<Y:1gI_1al(Ɨ.rYd:͸KAȐGə˦NnUz=/H/'DIH
&BRǴ5d3E;hbe!IyШ@RAW9RH&ˆNmvE/7Q,Exo$6Ǳr/7Apg&SG*ɼԑWsmPuæp[ɑk|(Q&z`'>]pȝq07&qz3q.AD(Sr@V!H]>BĈS|hwɮr
7qOq(QFk4l~'0<Y<պXr;ž7!w@5^.oklw#St΂ZmɆg1oleR+ȯMnUkTè*lWm2*zȫƲS^JӆI'^MYj(,5qj0Bҡd_pj3Yȑr(H:N$)ȃdSXq3
2Ya6ǉWi,^`a@9(oe4ymq^LaĶ45YiBTl?R2GeӱmFy*tPc=B(#cSor^tHEaS`;ub^7Ӷ4ԽhTqąvcIepScXrZk(UwZ%C!?]AȐĢm7HYîЩ
hI>wanZh<'˃ˬ[x'y|XӔ6A|þ(WUӮJ=k(?ROORudddZF&_tbĩuzd>2xa=R2^ˬ6&Zo|3t&țqVP3tr8v9=Q|oaMƊbybh*:rXeARvchAI
XhPі1S&_?34IWx@?tLk3MВ?&ԄEn[IP>BҬ3oq`RMeSy;:pɆiŗdI?ƂUi˟lF9#9H1U8<mRA*D`#)t$_gznZVA6VxUʸd/UkQ!pc7ЙY(8
Vl;u]l$BT#gax`|*pһ/YiS0Č:=!D&oX>7b~Gĝ$tFH=d#gʡAv**#b5pW;Ǌ~jXќ7J՚i$M@XnbEk3V4mq͹d]a.&+7E5uĒVP6$rnhʸqɐ
*[ё]nX&i9m!'/zՋHVJUM1u<KlXX&#(.ES/0h],9TuwsBǂ:^&w*sIv_yLs[9G>h1(d5X_cBĻ]øCˋ3G^d*p1šDlfoH4KVCR)=(CT]r
b[$>&(Ԩ<ϔ&3P,8mdwCă+rԡ0(qcBuB4WեaJSԪkkӥOgQ7zcqI4'ӓfsG2Uhwn;Ly0``8We:Q3g/#ǬfH|TWKЂN>A`=;ӍXJ[yԛWiLљ*(&
RDՓ.ľddҨ/UD!Irs.mE*d3!K,yh._oH2gYB@)~ZW96AR(Cr^hhѳdi6:b::9Bq&;kIjKӭSZi3Kw$Ӄ>ӧd=sHVJq;CUTWf7ԁ~cD#/1#|
u!Tŕ~ZpL>Tt~hYDJ.8((b+ζN#E]Id%QMmmiO'G+ԋEJ҈OƿB>,6T22)ga,J|!z|A`γjUO&fJo(җ6Q$%LGWqRaOM).B)aοwrUz+RA(n
W.*,Z*˓Eʤq+JͰQ.ҫU9ȔKx$JNe%D?v>1+:s|w|bJȊ18<3HXDFXY;91ǽ@y^$vwGCl^͵^Zh7yP=Ic(Ժ<rdDϑ*(XHųBZ?W)#d@'t7xDM
!+@`NъOZ0sImcTiK4n+,D8CJW9Z>.vЖYl0ʪ<i;+6wЦOñ@4]MeU,ʹґ*qJcU@mvfҩkz~EY;ɵt?xJaǾ(FAj~CKN1ujmpzcNBV7_IU'΀
i'LAsYéӃF>ќǢj@p8`3qlf!@>3!Λ_ý&i[PRösZJkrrL4'dhSfe%#8UWLUFMGb(ҳjr2DqsΦ(͵yXV.qQ.l.,iHexx&1+@8ri|3az[~S
OG!gnX^7mJӤ!s)Fo~T=mubMӣ@jgN#ÕƁtHY4*!D)Y3~aԫO*uJY$@ԏq6`b5Ņ!iZN+FĪcnOS+vϮAe_(_VtCHhcy)F*ЈJѳqmoZ՟3|xn`
ЍV>lNϵǸW#?qlJzkyPRĎ;RfO?]>LRDTӧtD57jŒ[+Z^*ʡ4Wƥ58B.aLR:9hj[>9UƮi6akɮ&=iʷʙ)9/13ʶ`4[B)zNH҉RQĪĮaW1%v4xGO
O:=ҟ2HCH=ӼDNyWo4GEix?fPiz8@U5G4Htymԃ;)o7`wVGAm#o$0zC:&<!=e~S%D4n~fq,K<=@^Xu'`~dzԙV]KswNK!2tS0Wiec&w^
&X~o>9esLP+)e9dJ!kǤ;*Q!KXs]'c$_o5|5*4S]r!Vf0Vly(qhl#OrXc^JžÌ`#m&ͼUrОL%]QJErŭij&ÙwaLðiknF@[ãzՋ0л7u&2r
H`qmV]TS8QL!FBB/v80|ĬEÒVPf%E*Ms.RR_NMs'EZ$R0ȞMs[zY<;s'ɦ8L8ծ*B7EI:IQoɪj:j$:u^aEq&,MG|4iCN3fkr!7~C|~%H
C5e7VvG$FSb!)[MHN!|%frmLȤ@1tf[t]LTqV%[Sō`@)?QeNS;QvlJ$:6KBnC)K?a]6?QG(dm7n3KΓPElgtāj9Qo/z$ʗCY(U01GW)
Z$!6smB!pxv&Cay?u<BxZCt'5Rd%ơ[+r5j_˟@+KKgly.frWѰI9B|/1)pyAT2^:q=QOiV4,*0+$ʚaP[?EAIk~sen<hZcϛ!в*ȞT6ŗK
jo;G1p2ՄaK~9yIGrDxuIA/eLu'[~H:Ř]:UV[Tf%ģ;uMZ#lJy_:(9AMwS,2<i3)XE,&R4Ry.$463Ź@])U|pF:]|K_cJVR7[zt@2_=
1l5/=75X2C3Qѿ~6HW)<+'AO)x17NU|_zH_%hdswcYzwDOPYw#?rf_˺8cKAQSv4qiWluIm>K@C:s.Ms(EgDg~HdhX&wRxlTsZiFt%
Acxc$9;f8TCЦJÙ%PŮ.FLHΉynJ5B`Sƺ!Y8&S_S;CȬE<Vok:jC]Ξk$UTl~YKc1kcWI:i^J+uF1xCe4`q.yι*U5LZi>iFC@ǲ~rPҥi,i
RBջH=Qm&4DGb˟mѰ9+*М@Z;qSM|)ò,ƞbHhrV1k^FˏLe*cuJ4ĴNrÜp2EnҞ|uR:aj5[dU9#?)q>is6ǶyҙtεwA&;h4a&svIs:a˖mǋOӕ;
zJzŘ:]]i]v~oM+p/ӴYϐ[)?0Ĉd65ѵ7mWkRI?tyl6#npγRZ,X˶54fdvGM=AifIՙjnksƞjoK`d8C.JˇWLwO|Hղ/LuCA#Ab(oʄE)G.#Ɖ
rjdSnӛ(?l6?U5h(##cq/cmƸx8o#~05hy@7T'[ZcŻWUTƮ76΃tU1ıy;çIk1$˟nae|W~TǺ<cɽЖ)4CaZL/gt0к9;jAx9S~A9J;4'Dg.`
.=ξV^;&(|3'@dP#i2@[$Rb0Ŗȿ4x>˲!3ƥqӓzu3UYФSpEA(N|ύ;k3PYU<u*uwnQ~HPX$`;=U~#y%ŬxA:RȒv2Zp/ϿrQWe?oaqId:z$ӹ
6k8.|LYd1UF`n*X)κ?ΨM:J˔|?aP/NarXK_Dk;o6`>VatL(43S!vpeN(xϵdƎbCPQ<:|P=ӓ==*:+Ђ,[K:pOkȨ?g:hM56mwƷBej1om<
!2xoџCqaĆXDHz6y~wbXd14x/x^_XUEeShoѽNʬ#zNt['R|jJsrR7OzLƇp0jJb3ȅzt:?B@/<.P&X%&ʮ6nMЋ(h!~yd<7&W*:ӍdXLNKz
O(gPt?<].K@KgQJ?=2#9)JxfwU~sAQslV'8d7qeOkN6Z;:*CZ+ϠFIU&Rb%qK2zd+Cа]O!:ĤtNYrz85Ӂ#^$MMNKe1AIrFӨ)a^7[zr
+zǲв_aVB<~e3t˚WwE8Ĩ[.u+r$d'sdKZw%ÅjI?1_8mP~qG@9i՛%j2Pe1Wy8ՋD=9y]mNʛq7Ӟt,Έa;KwxyNyιmȿ'?FƻXAARΛ%'9?j8&
3M59o>=|+:Immj,JohLїji&gb7Î')ZΈvfNx&^n?>QͶԹ42KiZ96%l#э.S*&!9t|S,K_m~<XptѠAGTSrʠ$$UY3V2HY5h2Qf)wtlBi$
momjVNˇC6@4<**wFqmP|h΃P%]X:,RĦ#5VUkHb);(ʸn҃J4_Ԭvf]*oɍSA:m8?H+gPp>:RmȆc|ȑk)ŢR7_x7$΁(ҳS%,rC._nɟIşFšKYM
(Pįctuÿv2DBws:2:8,ˌ`ά=ì/V,n;Τ!fh%Eh%~m69c;+OGšǃ^fVz9gҦbɿ*/`=qň;KА^Ůj+4@ȒMJ!8rwtnFaxA]j"⟩

/-- The characters that GBK has in addition to GB 2312, or in the place of its own, without the
ideographs that stand in the order of their codes. -/
def packedGbk : Packed :=
  ⟨47541, "ջԯ7mIG*į,g7aO(#Ɔ6s<7/yGSBVÐ$3xAq:Lr;>d|e%p~|AV˔˧%k?0ŸW8~A#ZH`#baͻl9e8^cջպ0/ѫ7u1;Ա@ծԈuPyd6
R(7*:kLʑ]zlDIԠ2Tр)y~zЅo`/]zDJ;>QIE#]uL/65;Z8˿5kɐqrh?2GrG2NÙ8zΌR?jR0za!<G'R2sd%i;yѕCspBIihaǆoJaKZdY*ƺ
i+Tĳ+ջջջջջձ(,_e|ϊ:qx3@1I|%LR_j"⟩

/-- The characters of two bytes that GB 18030 has in addition to GBK. -/
def packedGb18030 : Packed :=
  ⟨47905, "ջԞqdår6kF68#ybhdƥp&7#ɥ?woC5fXsvul3G[$7:,Ԣgt]oAջջջԂɧ3hIջժ)hǜbqǜajl!չF:0wcV7P_5'Ԫce']Վ@pppY
m,gKff7ujr'AvG_8zt?5dEz+[m,wXI_f@Q3X6*8wջբ=AwX775~ԓ6L?Mx/uzWŅ6unqXAN7=dFg&0=?&B|sƈYԹ(U,`'&էÓvn7Qȴ@Rj
AĴgy.)Ic0)aq^as<f63f$ϐ0EA%AќTyL4˚$Kwvɹ;0նjZ[ǆZǨbq,r3(k(Hhrȵ=*íkAoLFӜz+?X,WLTtNzLjuH1ϩ>zZgt>?w>9H)ʿ$#
G#~#ġHQ)n[:ÝO[TɺA5Ŏ7Q5gPxѝj@19ď҃2"⟩

def packedBig5 : Packed :=
  ⟨38056, "ջȬwd+DW82#ӒB~ǍtB՚uM!ɿLC`|[e|G8:vk7Fxѫuʊ@uźf>xnGȓBYp[ς|~wleuѱ΃ˆϦ/U`v`ń>ն#t5asM|[M0Yljg4gL;
*JǺ҉H=(UIs]cRɄtfP4ǀZBQ+]dEDd<Vsbo4ʣEVЦj:?N)PbʝYxUQiyŉZe[.L*PYM2P՚ӬK<uv%xhGSnfKoĔ˾`fȈITkm+5ł%5fe(WĶ+i
`)40$ɺQda#NVӺ9*Tӻ:#=NqlT1/M7XaId>3Gqn,AP/|%LBYj#vPap.350RZeηQ#/P(<5]9Е[8L&?˔1=:rC8']tӂU!_PG>m˴.rE,qǶ
M=gX:dPUDΤ2m[l]ECH0|$Ε=7i5lXj7S?_13Viϱ#ChW(dM(`x]P26T.*,NbPi]rWHn͹ka~ʦWg6vD1uEPqD[Vu#ss<)ՐKSO>r/e#~.
4R2e?a&U/O|N~5wt^eRp+C&;UuAP[+6QƇ]&z0ёnV1uɽDtBe1cW$n2zav$o;Fv104R32j%Itv2[M,ihˤn9?T:G/s]uvp1)yH&CkL8
ЭKHθ~lAt;ϨJllg1#*?F9#b1wi!G#%wLEIaF0oDLN562ELʭ06˛.:Li`j7^e;Bu_pg҅;$ƛ&wX%q|є8>]·~mZiDz2'3+ЌzP0</5*n]d
N43ёr1F0vB/j>9OhrIe:Y*DȮQ5k^o#wHc`lRiRiwuҚxxE[~7Q1vTLGNn,6&+T_,y>S7e@kgǣF4.0o;MQY8'g%(1Eҫ_UISA|&ǶW#V
Q1M[YJХGqV=S!YFҐ<Ogv&ċK1QuGD~0/pIǒP?&P$|d!6Ri*ՐtȹOGOnťqrSezŲF@*6Z|k$JiXZp?X*.7ҥ2FiLЃv_7wAwfTB!/0sezu
J?ρrm%S*>Ś1'y2kώDQ+zǨcK*eδ#e7@h!>MkyOi$Yz8th%AnE%5(FI<)Qtjwu<ɴGG^mC6hdE͸p~ɀy3Ո)D9:TFɺx8KxĲ(ZZKB6,Y=Q
g԰+H*$Kwd0wG?|@3!F=,qJnHNOx9_sSMUfJMBv2%MgWfl;$>K6y$~gЦhH$dPRn;'%BZ,UPfo~6GY]a9yg~S2Y1mTj)C_bBK@rfJ,
2KNf2W,Rvѣy(ƤԙqT]70ĻΟUI,6DB|dǨUT~ťƏ8t3z4x#<:hf|^&ɭVc6Xի#dMIJf!gwL#Ɏa!ӜL*<θ2]ȭvPcbՋj6F_>(WYoaϟI%uyA;ԩ
þc9ʔ8+|A;6BY9$,(IJ/(THŏ|yEA0LZuӆ:MO՞˕v8swU]L=M'2:x]Θtd#9;)IH|Z):_Wh9o˺x;qm]ET(Pu5]uT9ˊK'v`zqZw~]#:ɒM
s:VwN<<6sqtӢ#OȆCբȅ:ld)q&ro$@YӽOzx7KF@@.Un8C*|NX@Q)MxbчqpDİXv;!IaъLfpƊfȴrt'UhWTzTO2F[.hJm];ud+d_Zq(O$
ΟKĢ[Umu%V^7>i<0Ĺçu~ȦӽS?L$^$h[W#OGXm$3@*kI+ʹi=ԺԕdÅUgi!6xc&5=#/.<qŹM)wUʺiT(͹I#;ΞOA0ʛ2ȮuR=JKQi^fgF.sm!І
rvtu_<wŻ9B^I.)'3pUoLBF91Pqj8RZ=.TtadsI_S˔6qcs(Gm':sbARNDqMl`i*oMʽviszÎS.F_OFe&%chpUƴBIzfrpoFqhWa3b3A
rqbJ*ɤwsnO~dAMɷ>2sk/g9'E3,PN]u,K*EӸBУ8G[υiNxDs][g6R_jî8.d?gIZ2Яf×b_h%=,#ȝє`/^IʣdQ|E=|&HˡSo~ѐ5DD4=SQ+
H6Ѝ(X#:Ґpҝ|үfddTdF?i(9pE8J5qcSsӰ;mHƔ77+JЫĠ`p@˒7˩y2ɦRNY&vKU]qϣT?Sny^Gʐ0t(Rî9sPuɠRf:`ä4ǬG^Õr=@.ċflCJTQ
`FbH'L7.ga=x_4gd@$fϲJ?[=09~W;!kfҭGW@ձsRI/S@jHKZӶ҄)Դ'~Vq*hHoa;կ2m[N^`YL@a)!/B[Ңs!ȫ6q.T9'1YdV*!QTas'Jn
`QpiWVJFS=`eGҵNMzKrOb)lV=YMGϚ3>*NTH8.0YRUVpԈӠxLcY5OhTPѳD#6pc_`=g;hýSA^n5fsόĻX|cm0IRddA;G$?L;ZWas!CeP
XiKq/e#%0**e=ΡQT#s&/NVvLCWeyR8^&3UdntqhW6%ǌeBgwԘ)TjkJQdƧ0AЙj:nC$)7,ϋ7j'8ЬT]S&Rƥ,uzoT<xqϖо8ėTN&$nsfJϾ
<q5/+0V&BcǺTWb4^0å*0U^]k0ɑWy$Ra'y`6)W3*мfwprx5h>YɃζG(xƋ<8uy4Ͻҽf_gEťx/:&W҅H_4ξTˬ.S?Zk6s[qR!=P/ZO#6+4P
o|pf#~gUƨG^+#XôjRk҂zČMuEҜiŇ8:*mlT^v`;t<kȕU4U8cÑ/8#:<YMUL?u$iX]ԓzgG.*O+.$?Xascm%WВW)pv!ʚy`fF!Ld^ůuaԽi
xϬJiCUgAƵ0[nï4҃~!':ux_fʲ1ůzeN%ճ(go](Òn&S*T'Gj_Ԛ[L҄ho3r1PIr9oEfRˢ/[W$Ŧ.ľ*8Kƈ!1aFȍCʘEe>KviV#:+,tbtn='Q
ɝgԢ!1:3HЭ^gpG<7ō'N:3~qxeJ@yc~CԤs/fʪl`х&ϐgku1_If,^dԎ?(F0DÈT45(FaΒȅLCѽW$^~mTv1*ԧfSŒ9;8@tŭA|;WmaJҩydwvD
mф^Uh#p[կ'/@e7'Vd?Td=Bxb&v(v(Zx6pq~ύdvnGLFaqQeR16Ӈ^NZx@)+ɛW$H_ŚBxՏ)7)J6ղǟk4'eG[%FxOuа;b*u˔6Rmw5%3uqJ
ǂDfao`0.HSәq_g/Sufy(zrLTs;Q/!t3YǚNҩk҃UU$N2c4z˰ʕmNЌ#8JBs2ˊlClH%3ZmD͸@Դ%=F's(5cBEc;HАN$5=GAÁcGn%3fm`'n
Ȍtg)Tƥ0;@R$Ӵ!Һxǣ9g2%+Oiѷ<ABUjǸo~GЯ3mv3&TʤMFxRZ8w8Yˌ9rsQRNpUs:QԅyYO2FaĞ`Tc~EDB|*Ln4T6I&<кP!/:x$8`IaYо
Ʉ>,;eъ7.m*d~ot?fFՄÕ$iɜYgtL8M@R1ALIy,/qĠtJIΜ[?5:eatJs6`4xE(YN%INrXq]Ag2OҗT*`1aum*l'u:s%.:ĆȚq)~bм)0r>?
oL8ΒE9ĪCbXU7![/Ќ)P='~*QtC1љ$ѧhAGA#]^˜3yEO$l!UO$ѰBH?hNrT8hY@M)9%;WPĬDsAl:ϐK,ӫȣ%q΅jr3Cm`016_oҽ8</xWƹLW
^s^P9,ҞpҍƇʐXs[˕~xIJUL%eN1u$zqp?(4ý%bigCնʭ1bq9M';KdtN)OOCpsE|#NwIťNjɡya2IrfoPY|jvĪHn@C=0`q/J|;n=ӭË?:n
QHqDtdbbmRLƉz`>BiհιյkuCUx!/!BLΊ|VQsFQZĤ.02$,#9b/oiqR>BE!tX9cyǷr.Op;~Y0MkssQ8[@+R;Ɩnttl[&QfAL$Ȃ9DB^qQ
OZǩ^>+&m::zς1NbS+?VЊjZ>9i0=zYp:oje@mZbo<<+~mh/^Y70:;~?8Ż1Α=$:@^k'2KBhIZFDϴHĸxkkx3f!G?βEae?Ƥ=ͿbEˁ=;w.
5O;KA~w9n^%qAP7.WdUpldagVHġ2K%HaBN2wpE9j0*ŊMM)3`)2bzťWCnMl$?3o+a5H'dBh,D'A4#(bsSZyȮe,Q97>YYP]+tl:pj+
ʣ΁(TճE&wfA;Rr]b=rѰ_jMxδ>&Ri2M#f;~)5#*Ê2xou=e]hzun8+[yc:148&iZFźP,'qoFy~0fyPŭxFLɾuvSeLeIG0o';ŲWyJczj3
)TbP96RTTtzȺ87'Ev'lO_G(:@:Edk1Cxm|H8jqCkm'e=H^pġWʅe:y3b>)B#LiBɁINKpow~hЅ8!r_fYiP.ιy5*2+ҫrF%Ѷ@Ć9RҔhFx
$˴jd#>$CQx&n1VgB҅/=1iso%ʢ^$#Ң~?ωg[spV:M#HȊ$nh=flDǖ1C9ϐ70PV41_C9%gM)0W!rKәskS85ǰϝ/<~LE^Z~'X'yF9EYSɶ#K
vDClk;_0M*hӄ947J=cw`28nϦdb[JS$(!?>өNGLw<i$yΆjGAx,W2a0@Q>ZES@=pOPM5Mn<!JҐ05Mϼ*DJ>>ӣ'7U,ˌQQB?ǝdL`kK$)G
n?h]aISfs^hɭW(JPbZbi6ίs7jͼ5_7/L*0hlΈJ]$dB,rED|Sl<0@YZL(5Q&_0ɦ:G]W:XęNCƦsӼWjQiłp1҆mL6GGU&a6eSSKL?@s6И
129ӟkMgx2ԦǶuUk*nWr';O&QҖashzzt԰]Bk8WZEf_UȸҊхLNjukEɆ371N@j0)Tm7IKm/=,҇6uMlb[lȩŅS@&>3.#|πQwLsÞ@ZBlJ8;S
H?I.uEt95ӽm*'WvD01!ӈyX:խ;vaƁd2NDʄ3i03Fxs&?'<H4.L'+hϫÕŌ)%e0_)JoDIl9NHCSŢwnrDk|Q`8I#DoGO*~HW(e>yȔy6~0^
fǝ?Tf#ERP5a&5)ÙϥKB~ǵ'y?<#VTDh/nFɅ8H_q8Oɰ4BX8lԎX*<460<KQ2h˻mwpŴwԲ[YNj_0ղADeIwTBǢ<DO^RƂ*[tof):>]Tb_Ђ[V
S˿_NmqWImtG΢Cb>i$öόh|Ϭ`E>d]ӎ]fG'~΃^6|oltf>E҂g[Ȇ=2ı|%&29prV9O|lqAǵҘV%BӴQ?Z<A$Ϛ6B˸9.ptC%AS!DYvWL.ԯo@Fr
KK7˵2kd`J|Yi443ZWc>6e/%?Ш/sDS6UQXHXȻմ7,l_j2roLԱ+LI2wruTJi(:*V$ͽ)Z%Vp.a;Ax_VW<A^G4zқ8ӮӍL?EMBɀl҅J0D2f<
g>eX_cZ>2oȚ8Ȏ9Q8'ŧGYEXAU)ˉ>kBZ0?`3BpjYNjxmS~u3G_!<PYғ2l?w,$I=ӁBVvʮ_Xd]It_(d+Z,!$Ԝ+E˔V|rэ0deӘP6ҧF0c'>
V>LTtpаAl~F2o]#x&.NWipU.lǽvVաis?)<8lg$:z)+S~]*P]@35Ϯh]b<HaMesET^xQY#Fկ:dRTS8,+*Ƴ]MX=nnjk2=.÷#MUɟ%tf/
:(HDԽ_m([ąF9^3GbnJJ$:kŖIqFO;<<x8MÑP`ou.PV*s7K@m#lEdj<gUҜkG+`^ŁMjʿ]npǞH0%exT9WELw_T7΋:vlȗ@PϥR!wȍsZm:w
0ɛlQT0LRP,Cϓ47[;ZŅo?cӑ:ϊC*!u1Y1yoǸz&JSXЬvy(&AyMZUM'g1;:8fDBϝ͹vwQ=egA0DlBk>'oHiE.(PDO&t8>6=^Mt,xя)jņX
F#i_(tHbH36_qXr7|IȹoA[5RЁ0@qДĻGϹK$X҉UѮ]n0q.Ԡqƪ$i1dsLȤ8bP΍m'Ԛ@ɚAԣ>8jOao*:!F.ԱEZ^v|`~ѕT5O=+&J[>Vo#ҁ@($
U6C%ZM=#K%UաX_,3@Ȳ+Հ@ek9C5qjT&mZo%a%LQƚư=CJmGŌˇR7+3vxƪ_Ԁ?|oXO2(i!7ˎpXDk54`DGAQUUBCu?ŠBK1GDbnWOaɛL'u=
,`cO=Z.;jE!,O)7wR@PkNyT?@dbg$[cN(Ngb%XÃaIHǏ1:ϑ'E(=d$c[RFH|OdM`$W7Iȑm)M7x>ʌw*J;uCmA6f.:y7&;3Ŕ`|eV_;|w
NFy0E*tyâ'ʥMDW]'|%~p.qMw~5vƺn[ա#['ĻͺtyNѤ^eu˪&bPhit0u'yl!Ն_Ǉ`,&ElX)vĖ&lve^ZL!`VzIi']âHGWfD~3IPlUK!D*m
:]p/MuUP1(~wÇ.D$.J˘`mC,|;MaDm_lJjDSCÕ.)h~b49cdkM~Ovi8lTt>ţI6OňYnkTlō@kX.UÙy*_ƞEPϵ.)9Ưeq8`C`A0]i96+J2
:BO_&;RW>[G/a:eT377:BvTÌ#y3]nM~sW;*SKXG~ıw$Ao8gz]`7@tWGզ'fn3zpqG$rqG:GJM^=tp^Ȧ;Mt#ó_u3OnuRUCv;[J*zαc
OY0nZU;ϴhy;&oc˾90^?zoWpN1w=!1!2ώӮ#'x_K1҆g&?&kWձlʐGgD(F.ź4Q3ǨQ(YϓР6cyREҿ4u4<5dGcxĹTHRfʀ/7F!E3_O[M3N!:
:Z>Ѿ>3bB/ӽh&1'Kgw&fvTX#I~<lwÞ2b``Քg[M6yӠaΡjXh[όğgAaS(1TǨf(7~СO7`YE9mCdL|yfEp]+^ϗӵuje@6R~oV/(9г$H5,lh
0[o+cΰ7_>;Q2q0OOi8%qp@%tЖFӁ+9HՓK^zeQƧG67LZn_~!VImA!]ǡTW8$˲.<mōYNYL?,j^Ņ0Zcͳ>yX8e&0rěKJA^XDB.RKC.A!@2
bCGfpH6]oǙ7h4țS(5jOlJ=:rTJ<%)Ðĕn(KFzҡj$V7w+^M!yò?j9lA?1Mh&D)9=b1F+C4kgWxnw'RM;WHb?GcHìՉe˛1Pqʩeo1'Ƥ5г
.ԼBr|3V/i2n`5_O6=JFkET&X3W/ԉxU57vgE2dǫlENJ3Ζ=aƅ=Kl,xhQCWbRI33zв_ҵEWzfQ2y3GJbêˑ]Y9V?M2_|<!W*5đ_ΧuhXK΁
_umLETK(rAIfd,bÕgԠ(`zTb~%υufb+U5=lsɐ?ѬӉ/ԓjJGJ^!3!_8e3)1T~#Kt%H@DmehWaO._34]GƀcnFt2hGyVxC()I]t&Z']Ӷav
=J5CzcogSnipwW]Ж=ƕ;NɃ՗r0_33GX)A#LsԦСdUƼ>s;5T%OWt1·:t`AIV>AY^HevoçHuωyqxh.Apev@%6;jʷ5ӡek~u<75cAI0v=d%
Y%$YG_ufy@T,O5CPzr7y#hYD;J[.s'6go`l1QJC/Ŷ!!ϖ:@dG8åHfFq|sƧJԧ&lв/)[df_//Ky63OA9W1[.jQ(rxw4Q^$beeNɼE:1m
Ӷ*<h՘WYSE%rē(ƙʸO8KvadlFM5X2.tj3:ѕf*i0|W=`r)u`M7)]<(҇MI)coԱ(@P6#..MZua~ʪ6t2E<>N;?PsE>@D/oʭzS/Hhnp%Mw#
ʖit@|/OZ:W,BAF|F'kBKLqÅq5IgGse't8x!CKѨrV*ʉESaTO.3<vE`bί^EjI_>=yʅϱX8t'.$ǹoӱ|CS*5l՝dw8^ЎhhĊ3wf4`~^ɣ<|0
<<iZ΢yw,e[W!a95diN:/b.ɯJ4khȳ.C+bJvn+ai``1:9hҐ|T;_3KD>DZze4/ʟ?MCÈBO8]HɤgRŏϨSŌUϨYҚ=rZTiV|950Ә]Tġp5U'au
P<fvVDbTO(ff>Gǀ9YkLgc*t[Ӆ.yнZ8H!IrbtJwn;z<CA)$jш4`6NVFŇY@t8ķMiT%HȮFe9Vբ0B6~!NNL9lD.tq!4ŦWTY˛7LmN/=/A
|Cv)ҵlCU;ZzxҊo2ǲa%gHOI#dΜU0D4q#0o$.aR?GZj.ɽ;rȡȳ6fY]&ʃo5]PFՊCtVI$|@h]U[msYUfnz`4tBvQu_ŝzD^.2)K/8ďZNy;
sҖ5ƒ97oWd)WTUsBo':A0CoIjQ6Qr+!SCFU1Zpt*;eBw.Q^4z$23<G@a'pS!f0ȭ΍iTSBwUJx7>QdĄ[Y,jƆѹOUjm!ɲөYJP2TR@t7Mч
nK|q=x)3zot[ß9,b$<!GɌ?>ǯ2M2&6Ǽ՘Dx=;2ZR7^Gbd!.M4heUnP|,7ck;pǔ='DkX+(Ρ9X˸yd0հ`3Gv&Şf~9W)>b[r8ǅ|Ltk>&m.
eνn:CFӑSiuQaET(A[wm*%Mr0M:Cî)lipN0Oј%|˝,4A^f[@hmt>r[~/)2Cz'<I*a[bЧYLUƩweQr8Z2KE:ʓIv&zCx9PӋ!rС1η@@l?`
,vJHBv/ɭ0['n|#;e`ұcO%8ƯXĲHZbλa΀ԿIoǫHF:S`ZpzÀԔtA!cϷ˽Fϧ^3_2Fk3bLo3Ew6J:Ɖ`l[~[C*ъS65JXV%MZ$Hi*]j,T318>2
Mԕes<AMz?;MˡǢ(1οƏ9F@Y)cʕamkR;bk^Wn~9+3M^a;HJNv0ND4Kp(k]|S_2_!^.wBVwq/àn3ʿyVKnpg<Peto<y.|4x7zhQAZ@3/5
m.>Y2ϽO'.ʆW(Vlyǝ]HJѳ7Q,/Qpsɍ+Ļ@2HLIe]8~D@.ɿM=JITx`^&1/uB@@NȠCNn.ɩ'˽f,k!0Hyf5+5Uvq!hMXW|JF5<Ҕ/t`Ƴ^ɷĚ%
8%9.cDӻL)EdeAmU+Ēwayn;Xd&XԻta4,tՀqd*6_ˎd=F<0)ӿFҎ'JWWgĊ<vSdY#w;)ɡEmtQg3;<`ʐ4]Yl8&1Ք$?IeUȑȱ+HCoǧ(ml9s#
]v&fwJ;?EQ6ӧcWMo%G_'JưO4Ϧg0Wp8q@S>w(ox&0Ʒcȼ4#H3IKo>Wp_|՞&&ķ#m9#4RBfói5<äMjei@bgfjŸ)SUԑ#Ú0Dlrx|ҋϠGTX'
'&@Ii.y*;ѹ;)ȫIunit$5@8mW<)t<Ykc#CIZͻ4S_O~ʇ9Fxs0C[լd.k__+ZO;ziIB_:;?LX/L1e:~t+qqTE(@(ϥƬo6z'G>usCgȎP'X
XgQy#PG~(S_4Ye#OE,@Pp+.7zzv[wON/|x/>0ԪwЛc]+9Xu!I6rɞaQ&'RҖUiLbʙ<2Z=*qTrc]>u$9Dv+%(MkskWUrd[i+LkN9e;D9
Zy$p]*w2Կ|8<ήEҟmF1zϗS`0zc0ҿɅR,wxư6rfN55VuIuӤ[@ӷFm!?W$yJ>iKOuJ%aϏɳ~j8$'.vy%]Y.Vvɧ0mJӇ5ZXA^ȁ2`g%gBGs]a
kG'^6А*;ģƙ(?Y52zz~?e0HW<՟)2z`l/X%ĝԨ@<%l[Ǫg;m[tR@!=ʕbf40Jwd9.JE00A2Jlo*sCє6|02V@fy҄dy>AWs#SOҷ::'=[ipϑ
2De3ZVPUbodZd1Uκ|i,7Q~Ԍy;˷`˳v!nd:ΩLӻxϫL2JÛ/vՅ2%Kwz_P%t+wdq)=vX5$Cy%`8XnTƒ|STE6);dЈZ5Wb9gɞblR|b&t@ɖ+1
/X=kPW(cpʘҭzW:|~<ɡA:lzĊ]_*gB)L?ggY3M:b$xTʂX[8'~WH7ai+[p.QH+*iOշö:Bosk+c(^7!0ҚA`)8&&GRĖYlyOq_Oz88Y;n]
t@#^ZYJWM?9)bjQӴt:u`ZfҭqFn5LLL)J[57t5[ȔuO'p'7OJ`S$z0nR`IbxWB>sQAϩE5νԒ>Co3U]Ra,41HQa?0g#$OFyCF?ȢcZbOf
2rinՂ7;I:3Bδ,~8#hSɆ=4|iJUk˰ofq0>ttO4X]a+'ŃMvScUxQl˕RnEa;r$cmȣmZѶATfSA.yH=Bqr3'xKyIyԘ@ȉſy<A0N]ybBZϘ<5
NWx^iGtLr7_Ǣqb*3=Rұ9Ҳ6`FhaaPbmÌc=ZFзESPbT5CЀRCrՋ+&=P5Ǜj?;`d;6@VGо*(L[rQ;UY$7ʵn8ga*mA=rrk?52^Z˛~zw6?b
VG!)/X<DǨ,2A%%NNW;$]bƝYā$VgõӏEGlulXBn/Ey%yW]=CQkAAg>HhUKՈ5d$i~?AGMjyHw:*kiwҼ7R24Vl@w/œ.ԯ+V˸ldI_ō(f5[
k(T(nXmT?ɼΔqÙY3TWՉi<(O;&mk5|XM<EFōSo*ţ<GF`D/Iiĵ<g%zQMH[R,8:vˈ&Ve`<ʻiO|=^˶fŞ27uaӵ`b^$F5bC8Ӆv*fRO]˴Qu)
TӔy1O@2SZ%j9԰3j4,|Y0bʕu7C*ACKЖAZWFnͶʷ~ķ=Ϟ^9/OЦJʏ_Xs%&ƅ,Mj=gıPY#^EЏw(w՘0aJ;m&йy?U40#L_!9Ԡˮw&~;.XB>WJ@
DdRFяYO]+]%ĞjRB&_Y|i?ai1jÓԞ(Jɤ5ʘTDFL<A8m5r7Lgoc|vM1ѽPQʸʉCegd1Q~s'x2(Y^YIKpSWńPyԿD9BFOtf[i__g>m˙%u7wc
'l7~pȠ/&%RRA&Ȭ_ijwDS9<dRɘh1.V!X0t]UtZL#=~3JÄgeFw,iSg:ӅƪBiN7O)[Nvoh?Xп`6Q!$.R*qG#t÷lWNV|Nu9sfug+%yӅ3Е
jpn!D5KLiZvdī<m,'BWK082!C#36d6Y'&[E.Nf՘5ɰPqaS9cS5ҩHEF%;[Vi/984ʺZe~l1SW>Hq+nʢ6uBƴbӶ2[wb=y?3Tfґzhat~zW
V!BqW>wq+ŐB~ÏE#բwO(nuI1foHϨ&[VԜɅE=#qlaQG^##ź#$x<~sYŲPgV3Ztѯii;T575aUo#>3.+Ns#?ԜљZ|ԍn6/FCZMC+ȍ8b%__*[
`TG?oDheι8(ԬpY,TP*>TFWbQC<r#՟ΧZӮ96łwt9'VjJDŷĖ>P1ð=:)4r9!I%Uǜ)=ɈdrAfemѬ)]Kb9ZKÆhKLvcyȭb81wcťǡ1K2|7/u`
z6IYx#ɥvXjU]]X/Ҿ=÷Xh]TTpUkF.Ƙ.43|Ϊ.Yχ@G_&92Eȳ~:GDl@Wkwő+@idˬ#ɠ7cF΃GaWPKNSg8o6549c$LEd=VjӛptƣLɸq0@M|Ɇ
ublxb.UF(bb#LyXkR0ģKL4DQ#1Y;kDpV;vx[ju:3taL^$p,Ͼ~xgsϭ'uTrkZ|CDuC<lmV9<[=YQTCwFe,s)7uTJ*v?RW΅,%ga'+^e
py9gϠx&L&!$Wd'ȳD>+6ЀtlΫrs<,6Z+|2/oCApx|7#JӤQbiraШYzqβ_էVplS'1guԸeH9m4T&U7`=|(FYpeL'Cd#:Pw1mYCH4ՎPFxj
uZ2MSUA|=U9R9ndՒ_r*M<]ȫmc]x.gRP@W.V,d72[Kkhy^`!Ǫ%(z27BOvQ[kKRr|TOs;Ė?0Ê*!Uel+k&o~~'zSZ=9W_'<BMwK&b=Ӡ
V~ԩ_pҹ3u?[hcjV:CAR>RӧMfIj<&a#hBƖvIM7fLs;VN՗zA@IC?ĉ_UҚ|okЕOx=^M~*ivk5n2nʎ<G$lIY=RҠ4ewI8/7γNMѮ3KAeǟ2*u
o3l,FSxDtˇR1L(Čr_0HԨttt73yAǕ&q9;u'$>Ûfm˺H;y*Һŭ;$Kj:wbӶgąUWeYY˰/4brR~@!'Ӻ6#Cw@<#7em7Pzd$=Ay2C҇Ȃ#w_&az
x˩ҏ#rmk;#'ԒRkNC+dN.6[Jǽ;Is|<99a8pUyAeŭ;^~mMTɏ:6k$d3$O;Sco]W0BTm5TηWTTV8O*H1(@`MʴSУ;4$a#Z0[нѕF6kNETze
OϢU~g5ԐQB1CRHLb;A4!ǼFUUO.*s/.|~O?lSʞjU&ez~ƫSnC%#KѳN[)&H(l!2fe3._ornND+M5Ʉ~UŬ%NѱȀJaMȦ,pC+~9=ČXGJUr:Ʊ^
^]/bT?dxe%:RdʻҪv&>$fCqEc'fit|>&BSnjR8G<dFtI6WlRx,TR^e^V7RG/0Nɮq`3tjZRţ3;#)Oλɨd`BÖXy3ys>!ʓ+VBUnH^t@ГX
==#D!%`NCF5Q[C*Յ^_KzNK38[՜~sol3ˍ+1T6=V[vd+>Z5tӮ?cH5F]~zoun)cT<o_ˬ8ERY_47hPi1,ZSe:Aʴnu57J>bH2РӘMR:qOq
r~<MS!6$++*K[|N4$k$@@$=CRv9p<ʐve@#<ӲN$3Ϭ2+ӮJ9UXlcIL:NVQЅѵcgїC$G)a@g%.f˸ѽ8Ͽ5?CW2pf?.FiPΉCFp))_țXU`38f
giC',YդYonɫUjkes&1qd0SnԆmRROEˊ;#|;wējh@>Qlxr@OE(pcyb7JSEVq*7T9BeaTu8k.U9@E)Q33nJ9Ӑ_b'niY%xtcnr&G>gKӴ
N0T7p6PQ,MXN:I`VEZӔK<cELlQYG~SHG&|9QYryʣ9f7=ĮJԗˮg)P*z`K*Рaq|wWZzyc;f]Вzʹb=*Ȳ0J%ƻffz#уy18Ύn^qyo8e&[D_
KQ[$?PrmQ^uöˍVˑm<z$(óPeΦ*ǝ|?04tGf.Zh3tYզe:>Hgz/GNnvoJ[=ùTĥNы~i7+͸z'G(jSSVsMv4w>&L;?Rt?Ӊe?Ƹx(ȅ&X<Ղ՞ZC
_dPa#8+luZ`3ǜnz?Ӎ[0XI3Ɯ1mUA:wlh0_Ak[>B6&;Q~tʫ?3.B(O8Zö@&dSJǋ_.u<JВJ)vEJc8_#F҅2)+'Gl`Ә2ŮqZdO#ZD`[$gƸ:
GyUSr*ieFſйMp5P˳ld|.F/nF`ϳ[KUCf*2pThPìmAO6է/Oanz@.~|z+*˪M)r4WUCRoL]/8,/JJLYN+?Y^8%8Wfd#F(I?xH;yJ#uFx
ŠW;S>E,5vZlː13yLtHq^>:sFd8<Ȅ=8nzϒ&OWhDD.#ˊUu&|1Yc=CwLwpДȱ(l^AXn,?Bϛs<od]ҲĠXz:k8FŜ??R0,1[rZNʙ!?ҷCSBey
M@W/Bf4U9d<rHIPM#]MС'ʚkfkȵv12CORg1r<N˼P(9jc=˰7t`Ӏ΢vȲQwʇ;Zss|3=WD$'~%(C6(rG5Mwc~UmlpAIy6nWLMJÆ]psU2jq
F,gdO)yzhн*@+Ŕv˽MPejP$D$UWӸT0B8)zqA^!%`nɰNi`Us,HA)Ҳİ=>xM0YΖEyάTǀYXo=jӑɮy<m)ΛF];[fWikǓWGA9)?+ςDRl5clʆ
Wk9VɎ'<6Y#B~g#;w<hwZïS,bN'M8Gr5РXlHCRjLY4lsa&P(&TvaBHFαcz8l|kPRZHimuh<F_ATNe$ϔ#fBG;^<%ѳmk4ϗķobtR7Kmh
xǐ~q5A?O7wCc,joo?<;҂l`+ĤljkZ?tA;Q0S2$yag(`z=wӈǁ6rʮ;MQZDRȕX;/#ԵK&[2;XˈN2Me6ZbmΈ`%gBѠ8_d/Z'K]^y!hЬΒ*B8
DD9ʕհ,cchtC&hL3d6$,^=bG`6$['C*g#'SE9Ko`CMzgDvGTc<sj%oowVn1NTJ9jA+@u$R%K4SZtǺk[m:*Uic7!4;GEQYZY2Koh9*
bNJb3ՄLƇпi_Yk1΅3[TADKizUH8+Ab΁F4>Ym7!uvi00<0cv.P=g.r#(+$R=ʯmˈ#EIY)ȭolîÎ`U918@FVT4FOw_~.!osLq6.$j˽75N
yU]%rϭ!R`ƯňЊ52sΔ0[='YrѷJՒHqteoBʚeŧvTh[4^~Y>1pX`ôwhVz[BSNMW9+<8RDESpKu?ww.tjIҽRApT:eu6ҋE/_HԨfǷ>M[..4?
ViiA7p<=BxfS]'#Nsϼ.Cu',A:1a+*mkNX>892YW*H;e/e#C6g>CnvɄ?/4&q4?gɿMD6'Ȝ|C1Ma[AѫTǅ#ƫ`GH&fLP)]D5aulЇgc/)q
oѺ$Ŵ%j6*PH2JO`w7ʉ@Ռ_ΰp·<.CYmii6[cQNdΥȢ*[_!GUqcW3>ʊcbMɿ*/>c3@7yeLO6Ta~A'A*NΥ.q?sX)OU1%,p5I>0&k?CAWvfϔ
ukZ(bmēĭPԡp8X*Jn$һqoyuy8eYxŢ$+kCu_%IhKDXpqa]k.Ԛ+IC~`q639,,=Jeq?y+JQ]BxFGŇI1MLmoѵPkįLjw()/qrcBe[`f%Β_
*>mr6ԫgK8Nm(*p=#E(ϛMm&ZdZ'tFlvM,ɸ8FaREs3Ӝ~e*<ϢF@o˯*/bp)*T#riè[0U7ngZc'kx)3ӁȩZ[<c*IM^kSД)<Si[vqՌ^/`2a
&<лL4gN_/>xk'a8nmB'YJW%mK1L'^3wu(2~rwbxq5XnÑ=+(gʾU2U,4eDCIa#ϫ_K%`<)[YҊJԲф8ԼmYxW=I@R'Ʉq#?1>di9ZmŒhIg˓
$m&1/K)<EŨĞh,^_Ulgu~OFt+M0/7ǺIGM8DMӑ7HQKdh1ˮLO1,y>_XҐ=c`LÒ<[5V3kչ1HjɱїGՊ˂+l$.Gr=ki/:K?`jt`D΢R՚lUN/ȉG
d1&G$R#лEi`cyzϊ;*3VrRdġΐCefl5~ҡ:PՍ'g_tYp~LfԉY;u&Wвol:Vq7A:o(T|g:Ge6*>sĻz)&ɽQ*~`M%4u~xH2#AIг.0vb^5dƒ%
_(CZC~ӆƍ/?f5a!XyfB47q(2ƆM4/,s_;5^jIRAյˍ6tL6!x38όYk)8x>_DK][C^_y%<Ɛb$|kn9S*Zv%rD~Y#6JpQtw640<a΃vYÒFgy
%պ@9suqyIX!șwB.VjoÂˮ2><ՠMvοWwSJ4ptӃ4]<Śтpe@ro&<FBn<nq1NeLQd_D,$J>'Su`+ȓ7wsW>FiFTsLdAWGIwE!ȾN,?ԎıKk,g
S?0W>+6ǏT!ϢȰ:3/!gH]Cir[ɔ'9/KBnqN=vp(Fy8uCcPUКlEF/f~tҙeP_Ztkho0h86Su[EHKb*vbÇqO|!y&:J<=4:EǥHlӏ/sզɛNjʻ
xGhnԕ8]=$Ďxde^98ǷϦjq!,E,dPłVEv)Qњ+7*PJG'PI##J6^7ӧh:tjъAPj%kq+2_T`knd,B(iќ$i'T3gɛB(A)5)˿tSӷ|QϲbпxAN=X
kЗkƐLе<wX8X30eJPlý#XÈ?$wϞ@&c3]j$`M<NFR|?`Y3=~G6&oΤ(3B1vM1ˡ8_8SZdі$D<ˍPu.ϖ1҃5/co0O6ysӫko6jp1mѾ;^E*gT6
>БGyfIƨyFnhHlQ/6СAnv5(;J[o>?(%zOKB>τO*BdG=6z.h@yІҾFNa|J/ҀEMD5ħS0/˪ŁʎcsE$uL$dʍǔd=p1(q;sl_js;fJfrN_ao[
Z)v)m<$_[NsQ?X@=B>WmrH?!n$΄wDA2O]ȫd@È*5KզɍJx[l@:b9BW)S#3zJƎ0w=e>QQQO2:ѾpVa$!aqRy5O_?Ngx#mW!wYaBCP+:)
&dĳ9OS'~$!Se@r]e`qӺVšă.5ws')dԧԨK=)8N<ʥnѯt$9_!3h#Ѐ3c_)7Oӳa@`G?biAhm)ZF<?ƾvoģW|NG<:<o6_AWbĞuF'ʜ:@8*cO4
lv2Aq[@yC/c&V'$ҙaI$R0JTӷu9$VAZB*ϔ<o4duad0o[nsИ_bϹ&W,hMtEĸԋ%mzu&1/p+:*8Z>Oȵ.<~k$MVSŎʨ>uI/39V+MF9I:bGm
a)Js^h65K@ëx(iqVUfBCKrxj$<#05ť,1kobo'sc?4zʹfV(1]d͹Χ&JYYmZyѐoA#X#mO0d=+bHa>e!CXbnɦ/n΀S@0:Lq&haJ=QU~D4
ǾfkKWg9pÕ8cƆ=NG1@ԨE+D$ǦU=wwg&j1_Е6qȲŨlR8P`4~'X5Ovjm6MΧP8&E@N6k)[f&Ѩ1ǭrPqQ,'IZ'@DEsb13.l|ЂəA>E:<cv˥do
P6w]ʉE~Я+Ki0yYQ~9St59$oɡȦG<FIoȆ&ƴĨ=!jq#BR8:QF=Hqo+sɘ$K9Ary˾~&wUγ2mn==S~HE;$.0D08_zADI@.ftĥ˰L_,I9.v#$
.r.<WmBIa#>b!HTZ*^S3(Օ[$dΒ5EZ`ҋeBd.Pw_)S)XѷIBeM1g_nux|ϯp58mikүK@gTrU2Ϳ*]&Pna7sTŬϐпGaEB9UO8g.ȷƶʫ6uMWԮ
/ӦqE&k4y*J&y0I`P`Ƥgͳ˒З5Z՝T[m;<Ucam8KOVԂBK$<shx4m:uOȟYxQ6Ԫ_BɄ:$ϕ˲џaFvXU?9K0iowL)<fAq~ҸqʹE҈ĥ?uvJm]y&n5
B=;)K07HpOI@DC,6cYp%x'f,P^H%ҌkL&@hlw,hj/rrKocb[TɰH;/&]7>@BD0rԘHahePnbgb<2us^8Тkm_>Ut@6YsDhn#zY|*kxЧ`
Hv,n#)_e0rUp1V]2YR4DLeN?2!D.p1M_e]a]j!;aVRU,2yʝG2DtgE`oBǒSҵ]#iJqclTakҭ'?BN/MAѐFФC,!JFǡmq:0bɞ:F|΀4Eh3
ѻgeBku4m:RRgD0pTa'^#c+ΎnPTisvɕ?w`:ԃR*~KuT!osx|4f8К9ip_A:(x>dpkYhI>՗J0:>nզ7]0>hKlYn;I*Å<XolήU+x.svӗnn
G#ku@$2e*S!úĽδ.ԧ+T+rpXz6Y;cj.7a#Df8YíoxEU6'(4ï;W_VJvnFZYKiHcIԣYEǥKXH<k0I*ÂWN2H]DKBEptƷf+aFl+9Ŧ_W;ą+7
ҌW~GnSUXihs0#|2zzO&j4C$ո+l']GPѵ]f:łǺ|IŠD]<=]Z$34&FK#wNtsG_iQ?DI)КtϞl_llOHb>O6/S#ЬjI2OKAO0FE:EҊ/ԀaFHV
M7t<#zT$f,2&Ɏѝ/`qVzOZJLşZ5QDIzA0wj?v7s`Qyoe.Y4BţӻG4_<]Зs/sQCI#H;I7բo13Efs!W҃blE<_w҆b˃I4L27PSC,eǾ/Pri
75A30]FΕFEH:ftS_O_wt2A6);R@Xc60NEbf?:vĦOБПXN3/e8px9*&8QОGUXGYWFREʌ43L=јmEwxzBmw=CroxSVM6ǍR[6b$+*'Uqk
:7ptP3$Ǟɖ=3L,8#i;C,:ik+o2.ztDhYe.έ(zPYq!k|B5XtE&[M˓QXb_Z#//d@_MHyUĿũpp':MG~ө+gϩ^<gЀϔl,ʯ8KP'c&S$Tξ.Z
M#i+FPgqН#x!;!oӨ6CLpm1bxƗF>n9%[YaFt_3OV;#YʫϠYpa6=xĝ11yX%a$#9FTS]:B.#16.kV/΀ʒI?шS_NŊIp>cyFg9Q~Eg0^`ʺ`
FXQJ&ʲi4BlfoӓZY.ȍBcf=΃xCH^χ!Fw7)R2dˇ=[Ł?+w!;3qz|]˖K#`*0@wmxʷ?S'*A.9NeTV|uPӹkniG1UϢlpg@կj]FHf06DD:"⟩

/-- The characters that Windows has in addition to Big5, or in the place of its own. -/
def packedWindowsBig5 : Packed :=
  ⟨38005, "ջȳ/HXAϵG&IgESHH˃kD*4x>~Z_ia=$sOջջѦaa*`1ԦQ6Th,НƯ8,eou;Id`g[y.ZSrH'q8+~?o1+ZrûA[GhJջջջոDdY,
XL6y1W$IWUes;0_W6#Ѽ7)Vy9O'+W"⟩

/-- The characters that Hong Kong has in addition to Big5, or in the place of its own. -/
def packedHongKong : Packed :=
  ⟨42836, "ҦrAH=ʲO9r&l2m_W|PĜdviGŌac948LyR8+:#P3ЫAӹτMP~6`Դ_$7ba:O[IԢy;47q:Ҏn<E@1O5g>k'Mđx_I_ŋ#ˆTJcnI
Y`ǙK!ñ@ҡ`M_2aLfCVPc/ǑXOo47y_#(1V~nU&O[΃yR,rnf/%]HIrQqgc9g:5qUifvũʭT)fFTh;[O8ƷED[XR=ug[p^%9@0(IVTÌ*GN
j)X#AnԵd*AMc,Ŧ0HQtЧէmExguHi<a`1pf$gϭqP)u++K>J/|qvTpӍ~Qj$Dl%ʓkQ3;*MAAR#M]T98ko@t23i.Mv?c#8%7'1f$Ő=Msp
0jQx˫l:зk3U(;/4I8fq1+ҿSh2O7VrUwY2lL9OięYh@z@ItČ*D(ȫăd*VUDDíE#,^6ΨaQnhj8Drzю()ɐsw'7ĂyǺr3X0e҂RW*4aІVrj
>!!ҟzN5˚Ԋn'&J$Yn4~q@!3ʧÅ^e2>˸җo~uR3dVkIIx΍`KïDTqfSɶy$IeW4vrr/;:oxSq_Z:L:i9o<K9f:OC%`ai~7U%:Hϗ4)vuv=d
ƔНBMKH(2^,S]bo@C(%BallcSԈYʹ3kБGV2bb(l|e#%BT0w[9=s^;mрDy946)we5HP~1m_pwSib@9u0hPZi6Nc0rsњɭh:aj_+E8J)K
)w%ͰY8JMu;Л^T'/RdY>%tl@HY~?E>;!lakTfԕ%^$д0_vKu/cƎUŸw_1|zcuQ|h~;6ɚ9eduY,]Ќ#hOcɓEDԃ_`yTO/A'~AęSod<nP@p
c=r7nsK]D&5rj4;KH22v.ùdg_Y'18;_1#@Ctɱn_;kJӄЂ4*Sa!npqgH5h:ğP+0JS`$NGPՂvȞ;rI~U>[ZsxpȉpU9jvt(w7yQ~PLa#3
k*lC=|zǓ`ǌjū9dɟ:J/O)+UCIA:a~W.q`˔c>hԶHf.FBE7ӇȖZRf*@dӐf,i`x&!|(2EOGPf5+PN~ǰS,αp6ӵe6X!/ϱΘȘY9$+Lq7%VVҺa
XmE`PKn`8%La^_n=rF'`]FÍPƈ2fthykh.T:sQE];>|o~,DoXՈϯ+>s`mʺӘ&c#d;шȥR]5O:OD1ll!*+S=FE_ՆTRSJI?8ϫ.%$H5j~Sͳ
ΧM21>įdMЛQ~n&Xm~n3XFF8UY^UƻZ4G]|EȄsȓ:rDhȖKVNIf7,˅ʹ[ĄUQ|E`k/]evg)9AEҵB;+x(2YAFDbŔb2ʅXLkʡ6W=unQ(Vkn]7.
[#që]ӌ7ʝi/|jKK_HzZ@`@J:L2;t;(,&8ruӳga:Ғ8ɮ8Pˆ9KUʔLʝEǋ`K8!p(iC35Чsdo1.M;գ'c(,Vm@/3ko;ëbÔH_Ë;^=5C/dU_8'
5a2cԚIʧSO)e2ŪwXRd<)Ld424=EȗƤюĊǘërR1hafEhФHM1Ν0kȿo!aPm6j?I1eыnϲk5lxPb'PAYiĪDn0!s^jDE<oAy.JOc&Vr:ԛ'48M
VU9ˤĆ,H`+>`Q,uџ`f[[0Ĩ;ĩ=rDƸ<gk;'ŬըQcϔԬ6_HyT|tRK×ԾȀPVcUԶH*RwCХBʃ@J2aը!ǲȡÂ/12a|į//ZV5>Y$Sz`UqXfyL|<IёK
,ԤȐ~LlbY;i3_@2T7˧<8g'ZzhnpXp4tĪ9f|UCȖ;>ύRz]fTUvO!$$ԚP%h)]á7=KVQpG#,TtȀ5]NAŔOreLD@`z60;V~QѩOZQWM0!M*e
pYZGAd<RSєg:[Ć҉Rv=._c(CU>|usDv;Rw(|+ӅMʟJBgabP?Hwʫv=L!736N#19iXT('4F#sǣeb~]C4iB~q.s2i(k%CCRKw]K2>&ZFȢ
oՀJ/cRd$=u#V57;δϊ(CyP|P^p+pFJh8sU'P1Eqvn+zJ8I'>~/Ԣl4<Nx)O3.MȰ7EPgЍR7*MvQFjt7M_*+E҄6Ő1xV>NěCbs_Sp<>23
OK&TAMeJ,*:_`oerʕ?Ԭ:8E<O4fFѾ?|P|GV(Oͻ)U?zԫvl8q%20gͼd(jɬKM#i%A|k:Q@j+&V~Lɾ@^,UǕY2V(LjkAlKjQөnlAbrfδ˵P
933ӧpv<7@dx6hw=aa8%@rLGШePb/6Iw#pfԽ[9S@Ւ@Ch]I$^έ_gfүtxFn#]ɈFS^Qr`VB_D~QDǉX˔G>mC(yD8h8IƲ_jrB.)[ZABFsE
4|Ҁ%;)Z/k,5ͷmȵPAq(Z~FNv9_MɝC$FIȃ.TppƢMJzў+3Ӫ~rftaK;Y$]bJb~[haDF,U9MN)[Ae?pZvQdMP3eN60~ʝUT|˶mUîgoj`˧D
OJSN%&$w3Δ;=n6&3=oo&KLհ9]_qcx@Qq4:F&Ԥ0[N4fz@Xi>X~Vɝ.SD8?Zzuȁ6iD98f^`n)En1L@ͻ;)QҐ!CYĘe60K?PpLiTT0=0A%
*'?@ACS@EřS55dC4ҝ*uǬ_ЍvIjGӈDӐnGMo,A[350xb57;çˆ$YPͳ|U>U6B+yEmK~sW+7z?N3P~=x&LU)#ˤO:0r'h*M*`]GX5^Fx|ԅ/
Zir1,KZomBn8M.P:ɝ9átVvD)h;BR#HPȮa!N˪@b6WLNăl2g_OkruY#=cŶа*gW=!i,lEDD:+cE9f[i1]ɤxTuϻWōի1mBP0|Ec<A|VM5
aFRďwl!:/Sn;VT^ctRÏ2XxcYXGԾRvPҾ@dQ.G=!62Rkn31Ħ$[J|XKneɶX9А/?5ή/;<Ө,8aG2G2ȂDhlH!,Ɏ?$euJ;ЉDEl˚$`GRLM+S
ȨdůrLyz_HDVɎ;pg)2Ř_xk2>h~eR0Qvu+r.bLQvȄ]+Ԍ&[RHk;R2ɐȏDN6yGsOcukJ<4)6<XrH|'<<Ⱦҷĥf#8dnRWBgFT,Ȋg7o)l9aE_
,BOhujM!VBLyIVZd1M$ZIJAGϮ~l@k)ώ҉PfL+,rQʕG=5M_zkXDjfWҪ#'Cp.M[[$t@Lo6L4<xtgҠJğBrKg1ՈK6$pg0<Ϛ՜%,ȥ`JUk[/
K:b0M7BS**I)CsSjHJϜw|ǖ5|ZaNlu_;YÛ`o!'Cvq5aB˚ήþ7ms[]i4kL26^K=[ƚ]X~zԪ~~OEMIJF+jԤeZ8?Z͹Qe2vPmvԑ$ѕ).xcm|
ktl!Ǒz2Ѡì.T4+R|bD;SW.9R&@7Ձh:WcRnqYK/%Ÿ?˂e*ϱbKmpR*ANf^rxwʰw˸+bLȺ.%q#>!q!a7y&hx$ɔQA&ЉrNqcBĲrisxb]xˡO6
ʹ+MpVv1!A5SA,Bc)*ED>Z/+6saD8_5Z<<bіǂ/ņ0ϏOE(KpjX)K)ȡ~ʚ1AZn3ʛNq0Tk!r<1Ǯ+>WƠ&a;+vҡSxWrwǘųZ'ћ1r`wͼ3φ+hx8
1EB_7WҮ)_Nr$UAQ&'U8<qȯ18v[KÏmѯ5d3(&LB_UKHz;|Oan9ёvNN0ǁв,<[&h,)!hpD$uYWlǕeEVlAR@ʍЁjЇ^7%ʾS#lbj`u##aqvq
Ncy*7|ӣ<#xwTΒĉ2ѼC2ZCnw7HԆAAR`_/<`>/j`(Xv_Rb#t;89X^[$|+ryY|`d?=(0Ŧ%tG,]q;joյ;32PÉ)4+aUB4iű~l_uFEȰˮD3/
j_8g)HZRWo_/;VB4|5é5Ŧ˗fT.SK36qXI>?N|0`,fQ*ə|Pū˟$Ȇ!wyRYe*5˟g)OBX/ɓlI&8:s9]LC]jAB%m(CԿDѮ$/@Ԡ1YZD_a=hYI
?hhc3K]S~Ҳ(sN<]Ɂ6dazъ`Js4(Bjh@T#v&415Z]DwFPk)[[v0c8a1FL#nVXƇJQF9R:~q&Zp|#SYxbGkƇRr6:+=>@OɨcsoNT0ƋbGc
R1Dlg*2ʜ|3=PuFʼ<IŶKzbBBɀPіEĸՄ(Stu>vQNyIiC;@vFW^LZd?CiXʎ,CzuYľ|WD%n!YOXZ][n;<0JǢ]Ә;^i7(:9Vm΁G|ve%X)AQ
JGՕw?ʶ;L>/~)6KN΢d$@*M2lRH1O[PCTwmWJS(k1/hâ_Ԓ?ЗlVU<bVʒ@ULƐ2vlK˓LA5ƌOt9'/*m!&ȇ^^hS*$QǀpѼofN;b3ՇNzw7k҆b
ƕ'Kd$q4gG_,jnjE/˷+DyMe)aю3/:ɸGwbRXvdպ(F~f)?NV+_&M#ogvYv0eUŢSmb[+PdqaCl+Dd|3OCIPU;xSQu]1<amvhhIg[|,l_
?eK%ƲirOh*DuWg%ʹΧ^>)p?nò^iu21Nhn&M+lʸC:9h<ԏQnCӗ759z.Z0в2Fa(`(*=Mxbu@zB'G2n%0vc!45m͸bUqp0Ȥ7ОͰDO[ĲcH@5
aԻOʙKOȺ9<t=fPP[xSArpZ?bLr6ʥg_8GIiYo5tSmb@aOL@a+<NTViLTLyMcfJ4pte:;rȑĳRiYϲCσF=yY9h4QjbɈ4չdkV`=eAv|`7'
˺@mGӦR/VĀ8W@y?qj=ʼј>S./FJB+AɿpCq^t+N^e@C;d*e!Sz.wPfQ#A*/Q!g@du`s9Дlǵ.λdXcO:YE06ySL`|0ywa`sqZ4͸0P&2Aˏ
$C]<:1)48t;|u^Ո`ΨRBKxŢSӜJrW+lGf(Z?7B$2b8RAuFd<N]ASIL9|FeVG/iV`+|SǕD/3K1gazG:AO>Z&Ƴ4ԑD+wƒ++yx'JAB~YhE
;c:+aI<UA[?ЁOѫ?Hc)&+Pq%8_L!mN>1Iд.p(H?psbvaKQS@l6=θq:6<ϧ96Aa,Gҙx=&XR~OM4G04dĮ:znQ#ǨaHcҲV/F.i0Ŀ4^Gďd$
ѕc4$)īyGI~Q4qXFc9@U+=ѽ~BɬjZM3N4&PJƲWL8gQԡ~Ҿx`ΐэ%<aϖȚnl<DJPW<nKccomFN`ieu916rfPvr`'YTr?/.'4r>Ǎg]G:9W,
LysFhn=BʤWB(me^d&J+fz92<M.ibOYIS'$k&2Vt>ѾC8ĨИd0fNFsplavSO&Ĳ$`RZJ~/~jƘmc˝(Xã˷Z_o]*l+(`ʨYxǺ2Oj,uv:.h_+
R|UlnĐnJ!4j:$S^+VrgLPIFE9k+v%Tk:6JYsB:,q#ZHOu@z+)^|nhϪ9U*w4=W8F#)95wB=Q!nKȑʏ)ϑ0CH΋/Ag&.ƣkFľžyW]E!wсm
҂ζ5ьG'~Q9SDF9OCPD|y.Ą%?(q]~bWyM+ƺsnh['%JƌxLXM@KIƊkɉECGu/pYƤ3N~,CK:Lh57t%մɻ|Ûb.v]cχ3::S7EφzmD.Vʂli6Q+
ՠ2o?(@~=KCy1)Wrjn_MaZs,aźs%ճW<2D˂|JĦ9(3*L)İԹklP'I0ZJtuknc/^|.;c>0:b0s1,Wm./=h*x*JDV7Ebҽ]?aIZICttTU80
Nϰsp~PȻӠ;fT!*$JYiNB`DɨΦѳK<EnӍuvgSLz%Ez(hՒ955jZ2A˺&aFteD5,XKSa4.Նŧ8`2YQ)y&1DhO8gnӦz$Ӝwɦt*n+/V~mSm=eQT
E<wRŎī`+hCԱ5Ԓ?ʺl.9Bҏ11PÞ9<w;<RVC6χxd%0lWY]tvķ!w632`kɢt;նG$D?g˿5btf_zEmx3Zc˥CYή.T08HuV0FӉM07ě)Q8%BǒX8
=WI2՘ŁMm.UQ*|#2AϨ|3Wh+.*mTchıceҹ.H+uʃ8Ժ;Ɲks0ʬx7rMsҽ<;T__opNgJǈʟz?M$k>@9ɽ.VUѿYG]d3f,]~+6ՎsOԤ*б4|ıbcK9
e_)ɜJӦёHňGς5ttҋZqk1/|^[@DfC*ύ~c(vɥx^L+1H;^Q||/5;DgbaO6tdE[+96t`JpҗO5SIJ#^0n:$XÉ>sʹ1W~oXZhcI9z%KVbˌ.v
DƠ?pSɖ:DnF6JZ#rS`]#L˻j|BvfʖM,ȥIMVrxB>xo0Zl6TW0euFė/qʏi@U'^&VkfYo>C0Wsm[aI*m>CÁQxBB;4'bƿu's!;;koxn)j~
&v^::Lj?buw]QJk.x54>yz,QRC/TDZAҰ`MRSg|Z*7bϏ)vk.pOκ];7~X'C.0|Ċ)8=%8xͶU`BF|ҐГ~2L)ɦvu,AqrxY@cXSD/WB1=ϠI
m)O/Q@FsdiNʘmQW)wHEQ;?PTQH|1*sLQXeJ!'f>jN(ˬKC=g:ǼYCOH(Ӯ!9FGtύ0o]HQj5~y?u^^e<(Ѣ;9c.9bȨ1>5EXN~lI;5ЙLSX
qCQuOϾQ]ŉB7AQG?T>BCn3I]fm&,`MD4,j=^~%'>>HĹ,d;sӡDpqBRNEj&+)|ўT,'K=;odA+Wae[mev'ǢhϵϘt7Ce:dJoP;u7o%~.YŮ
ƴKo;]ɤ]J8'd6!Bf=#LoWHJX7J|IHa>%[g3vp?pl|LH[*Liinvž?9&|չzvΣIe'^|;2K~+0.KȲ|Q^ԕKϹcu,ՆmՂ,hȶDϬCQ;B=|oCUn_
hvYG)!ы<tnD'#5nFIҿ҈W+hЀb'=ˢ~t?`<)YN2Y[A(yȏrU@oM=a83v|dir3McHt/rVjJ</xhPK)aҪ!bL!~ț#^^%L_ɲ1Ry@ωŠŋ7hR8Ņ
kU~>˙e4U:)I]s^qwofOH[pW;JW[Kt,:blLm*λqo_!?3lC*H`pYZHkɘ#Qgo5Q5)Ɇ?AԜ;>;9$f,LP9jINF|ӿ~zg9)4@ch?ʎUp(S*</
vFB5`aϬR8vՓR΅,ZwYC;լV)oDFEl)Jr4T/3+rCUlX$~rW,8aPQB<n,S@YċÑFiDw?Ö8C6G/c82ɎT*Tf˙Ë?l;ZPv`ycZx|68yZKEw~m
ѧ+=)Ib1*ʟO|o)ϴ:0CϬR2]Շ%QtŌxBmKODObȀC>@$Bҝy9g^w2d*+;NΪδ.%+y:9$=[eϘǤ#HDXN<^!ZS/eǼW6Lϊe,9ΝCԆӁ[32ʲƹdE.W.
U#WQVxJkC3zuwERaQ[Kz~^x$nӏFGκǳm]=zi=йk|Ƚ#QJmbArqD8HMT*#ifk.ȢsKdT'Ԫ;0[|МҊa+ƛ7`OԽ/IM%hɆg$%T?Ȋpi^SѺ9<EZ
rA~eȶ?Dw*unOMщ_Fw!U;#bBnRI3&+~xq7yKhΩ@;w~ϢGNxk)H_YҨ|^~:ҁtTƄDx`:*ophè&mpp+xƧŗ6pǖ~.h^48m41eJVXQ^?=LbsN
=ZՒτ'?Ƽu58l>BQmkEvʧ/Ć8W/o҂+5riӿL˞m9ՈYZlvԁ(P3IT1kC)WO2//Zn>1,ԧtAm+t>YR]3o[&t`eŴ+>P8d:7΀Y#0C:<>%.lu˅s4
Iv#3M107ƢA^w]]0I=UO<ǈCZGn;ӍCS7^BEptЉhɛ(sI.Jy;z#`W?X|I'C1+AW;2G$mY2ϴ)$`aLG>OPf,C8ƂR@t'b8˴Ū`$n)|mƇ8wb|
7VɏSų(mEtoIk&`4v?6X9C*1~wǊhxJŮ^EKąźȄOŀWp]`K'r0lSgejf&j,Ch`f98n`8]u_8_HOӼSq#=H&'9q[FzJc#3w5d$ewTkC;vȥ
ihVKӟÄJ:vm59]!˴*Y)ke]uĝpĤĻO~EUQx*gsaI%n=deiȏ/<8u4AՇE^26?Y'ɸΗ.fuH87Ϥ%Fĩv;F&U],jhVDElMCԞ0+/2vIT^~uqƏuM
kŶly7zv*ѥ6^zgR7ɊiҁzGyzNSh`wE&lS|9jvj#LQЖ˸1C78hZsRM0oP8K΍Oryh8D5A4yhFzj:cӦ2IytJsJl0f?SѸ~<@#~U6GGùlJpǰ
i9H>aÛ;FΚ#'oj*(z,NV%6A5O1d^0uɋB+.Ϊ$ɏBc`<=+'gC#/ByՇ//&Xw4mu)՟yaa=#1g#6ImPz5ȚdHF1g!qȕq<Ӳ~7F:|Iqd,(:#1d
V#A4LM1)'^_Ydb,DКunXo&~cfThUvF.цy_y<aRH6nKu?7:9Fe|Là&5,;&rķԯer$wƾɔЗ$r@irqGsBuaPQK.Yѳv$2T9ƄEË6]q$mdTG
(w9Csk0W|ϨwOFf.bG+ShFS/gbFtK(+_Ђg@p:IEǌ/qZyRCTD;R&uѨ<;.>bzKBu+RsIB;0˺;cfTժȀqП'`w(+#nwuI(=@xoUq!EDW?w
ɸYUB(:mKO=i~hj]f4ǦղyY4H9oYi1]ϷH:O1@EU9?ieV92FuMyNg2WGCkcHj7^ΌƷ^lY^y].QXʅ=Mk$8ϕ#hs%)Jn!Po|ˋ2|ÜA'0і?uc
I/^twoP>1n#i^I`Pa/4`[xzń0^#T3Po,&3af|I<CŃsWƣ)<Iϴ1ѽt!y0IG6լe*p>V3͸idI|=ŵoΧn^0U#˂%.ӕFFǴrHvB1^LǶϯB$DJ0˶
d[yqX|҅=z7#@y'0VhS$2y/ѹ)Х[ЌjTDKS%Ĺf=I3h;ԓ19;4GfúFBz4Abq@PKԞ#pȒ(n<qɢChjƕ/7hHC(J/ǨXLż)YA#3!AJT/N[VK|G:
^775l]wT$LLccEĔՏ$_qOv?J:HKIi&|Ȓ(|O(IVZф#%Zdk&=9F10gFO.mZ$;,oҤsʥFolՙg^BK0G>UȁjqPo#&ϱTP<6=0x|t!>%.$ʟRŃ
(і$rҼtQ>F#ofcdN6:#oD5MH!:yƜ?%s7cQLX1U5!z+$s|U#1ď'~Nt(<ȥwzIz?J*6zJˌO|qdϝm(.kΌVXYяA7DRguҽZ+zD.Cf^x$ď+?
~ʁoØxb(bhKrΫ'4?Hbi2ka^#q6ϞjC$VR$:ϞbV6?:Sgfc;GlTFθ'ȶΠ3`[~V2A(zvaKi<oBF'<ypX~2EqHAL#<RcVVC7l4.dUaBUGOE
3@l$&1+=Q1|r6MӦ^J|i:,DJIV~P^4,lGQ+*?^GPǦsK2%`n/5Yo:Yc*Y384.RBP&Ĳw%u=kԆz9Kq(жmÿAS8TY$3elJmѹRur_ˡ)&<wD
!oɴ*<'.U?$0~rA9cVW˒cxLokc+!vhm1of6MRlE~>Xi0kpiNt'9F/ĨkпU#LOLlHwmm^H҇ƹn`ΚuƌI0$[=`+.o|uՌ#g]6~~VǁՏM`@Xm
jǁ]Hdեm|(˝?6Q~7(QGrmVG<g59r;guFѠ7l!5եbCP?|EMÒEMT~%šRFsi>@0BbB%j%<K*Gy7_9fLON(;15gӨƂryԔ~LOQ2b6#VWaZ|R
+yaÒrä%ődi$`w/lFmϸZx^bɆKop]Kq_|rDCc_JWĊuն3~ByzYΞRW/1x@of28WmjLDwszΦԃUHMm~//nCLaYRRZ/F8AAhT&5ҹGȎk*ˣ,t
7'|F5G$DZIA>Ft$`(aq*;HcO*HF[ʿDTN!qrpMI0G^_@7zSN*?aʡ9C?SSaJ_6SdmV`J3pLbbfazOF;<ɈΤăj5*Nqђxs]zN3g9@1,ln
L,җNϴ,f0)˳՗.JbHkC~R*<c]RO4ӤvqRE#bĵWYQ/eCqοR;nEEkgǄDVflħ!wD6qy6í,rķd<|8z%nAV4ÙS(O)új2:Tk|NHfnȧDhuGYBJ
5C<ҨS[ՀeA28`~%15V(!>7M);abIKU=U#(k1H..&Y8c!85=vM]7YZz6*:ʑ:HŃB^_vŝ~85aoxu`Q+IgǨ1k8sZ:%ygVæE+7A$ёCΧX&w
..ia0n)ό0@#CtNCR=Dg΢Pwʩnfc'KV%|U^gRN[_?o]/[`@0Ƿ#19jm.+Y[WҺ7O:xoC#pZw~+:HtX:=i<>;di<J:мsb_oNNUG5ajZ94
jx!3FMԬ'n0%o$ƽafhFsaXїˑ4҃YˏBF/:Vżű8:<d`<?D~ZnӲ`j,5x.7i/3A>_Z3q>!ƪь^,r?ƦQ6ȱhYQ4ouPF5J;+[';ŚXӐKbb0zbiJ
)SH]j^(BSdW6lsb_,_Y@UҾ<u3@)&/lƊJOBjςǱlB@ӏ`m2sIJӔgzepQF;mGNOkԀ7&yD27q;/ȦX0*i'Y.)ERù&OY+Goă?н#|v.)(oӔI
vJ='n,C]:k~եT>.RTJ]~NW'cȧEDSNvƓ6XI.eV8smyvR],[Ei@2Ԗ&vsDwH269&im`1gE+ZssiS*86hz4ƛ&H_z3I8<u8c_Ƀԭa4Κ3]L
sLǭHR@8%l=Uȏpbf.0sgCyԷw/#@lbĘMEɊą_TiƏ5þ$Il`msXyӱ1ΙiL,)@mB)BkGj'.wZOeQx!)jmz1Eik~'Mę7Y˷F~ċ0Α|#6s~xы)ύ
kcLkδK[3i0m5p(NӐ6JjT*ʞdb#69˄lJ)S9T*m$C.,x[qEHƌGb]cbs=7JӠH]f7k%$5~swSR9buUɝ~7de9UՋϾ~jxgɔ*Vl~ՌãZrsuziL
MD^!_8CƹRjIqq)Xo;l5twd,qm6(Z&Őus9Ĝfӆ<y3pU`.oAfW>f8H&n%irg,uk#ew;3ĵ5hERЀ3IRQ˛R[UdyQ3>)Gӊ2!ί%ӊ(yqeLcHĂ
8WubWp5^PZ``,+T~buW(e_×#Oy!L˩ÝxIяj2GTag7cɦĢW^B!ѽjTA?5Q6U2tQԺÎye&2h`ԗ&@'p0veqW`˷KSD@E1~3j/mc;2PÑvW.`Ǔ
pLXPPɽ*U<$]KuYўrӠcқf~Pk?Ih^@o&yH0*/ZlYAq'4,_rWdk'|aM>Iw?ȉ1YbϙQU?t9Al(YV('VʓWpd?_opzѺpg+$Um]gI/Wim]@h
ldMD]mg1GWUNՃv;2W>afD.f7Ƿ0G6ʨQgɋInOpZY1$;ɨa`]!cWN|yXSB+n=gWK_`'tëDm<<#_ix8HM'lNaO6:[LqxuzZmǠ9^ԓW;v;i
vИqb:/ґq,~M?KÕRc4Q/;c~5ʤT;)an~DXE&8!4z:OTRRW`İIeҨ`'k1NflҗoOTc8#MX|jn,/$7(ZɢЁS0&m?+ƝǼŔ^wt6?Gav0G+=9gb
a8>&akzN$?/%v?čB[1krdnj8X<,[QG;n)KfPvq*hȪyY|3<3]^J^<,e3%A@oˌ=Ƿ.HHTxɪNd]`XӰ@ĵh1*.Q/BV6o9)D*7OQ2EbVpss
*TI?hzΟTcHehxlՇxU6?իU12$Pa$UHoIâ#ӎCe_+euLsBJHmt,6&$to_pH&8IЃVtWhz&hObM#~@_g5mTԠc9&yG@[SRH9>ʴjo4LcDYm
_)Іi+RγLsEw&3)QλmRͺǳy2R2G+N@nmǚ#hhQe*El>GY՛3_2%eLF<Dʽ<V$JlƁDVStVm&s_P)wI3mhIGiRUL.9L1S8neGQǀ*e+HXCZT
6%*0z7ВkJ4մ.o@Sр'E,>AUPnXr+yDzG|Fs|kj#ϋ1^t.l`.9:˭?few*SŮCOƂȨaԢƼmXniYm=LHEHU%%Į(r6Wk*tSVWƱĂG2~+iǿa%B/
vR`HnԲn<ɠMSȞ[W5oJPbÑSŷK1fz/rM8$uϫջ~beZIXLѥX/A$1/Xi˖~dK2)ŶZ'p:cŉ7%τ^ɇZ,Ѽx@Wu>w0*fgGe!SrO?R.9IE/43Y2yp
Y=A0rPN6b@ELcxf˭S(8r1B(h@<@ˈNâE!?ȋ)0GXiD)'LLiZfyXrAʪPkԼ~oNa>60Lg8ʆ9Φ4xRes_oՔLQjbm^D'g/ʝwC9ˢӖoXf0*h]q
bCNajΌwѽ$M?vt&:b[~CQYq6a=MYV/+/;wc*d_Cǔ9(h?bxG1=$nghG%XOidcRf)pEƀiɠbna(aV7;ӷ[0VC]$?[Vx'YP;<8HOljHbOo
&OMc22a2doKtɠ&G>0pë+P0J7;,5Ђ2T^_6<l8μ*SWI3QbY_[`':W7@&eN7WHyѱx>3^J$~@kNUYiP$m(4pfˁQ]sRI$U>N`b&S|^cWX
?GJg2@2ʞpW/2Mqϧ#E7ZUvjXce%RR#1K>?jHɣwhT(ʖ,ҿD~+`k8Ǽ&yr3|1#`urú+R!o/[bchЊiqua!~)3^($ř9SduYV[!%ӓ74?[TLf
VNCXVi$ԕls1lɋ$3ɸfY7whh'P|!!<SE=NB0řϭ!@k3TRnD,I|EG8ƍX(WdOJS|ETcgGM|@@ԥ.4XIČWFк[/ET:^p1ZehՓδGE'4NBo@jȢ
9[k)t|ɲ%6ʨĢEB0rsJ_Z)UqbFj˙C2ǨU.XNO,1@_;WBFuӆxuN:UjmenѦ351,6>ԈKUOI2i%ԿԬ;yp.Hj],UE]2HV)9A8r25ˬXO<LN9n6
Հ&^aHT^0wE3T</@klԎŢMT;nskb1CATT@6@<ˊI=gab_9xo?qsԾ#4vM(|gã(uTv@ѰЏ'+8ifԑkllĲoҒ%@2el?;Q!0ѐCAn?<=tG6Q9)k
OKrrHiY=t<9sǳaQ~O~pL~%A"⟩

end SyntaxGraph.Text
