import SyntaxGraph.Text.Encoding.Cells

/-!
# JIS X 0213

The cells that the two planes of JIS X 0213 have beside those of JIS X 0208, 94 to a row.
-/
namespace SyntaxGraph.Text

def packedJis0213First : Packed :=
  ⟨17887, "ËkT?_ϦƘw'X5ç>AӯљUb=xj%pU)+]:eWsR7пrD44#RҗEԌ˭oLmUW;6pDu8ԅB0ɶyTfN]L[JNVB[^6F˭rml'_!_Vjʼ#3Hy
dōJoEuDD&yLÅ%g@$(N`lc:n5VՊxnW=%!UCխKk,e1F[Ea)/|IugV+#oOL!Qb4<ĭlh˘ӂuBXJhX`#eʛYp8BB|)u~^`!b(^SȔ`[ϥFeԏb
Wo.rG(hԝΕE_>9ida5aoi&Y6#c3qOw/BT@a!h43;zŸ~~h52Y!^9hk&ҧÇi1|%ZG6@?ԦN>u|ʒ])NQ,HvjYɌ2/y_fүa`Xϖ!b2KӪɸ(?7Ә
qkBԞ!&ΈtY.p|`@L+ì!3(J]67V]m*OgW`r2:20_n6kRbt|npbik[?lU_ŰīЖZn,X(v3JW!b?Gz^Y5<ǖ*|3XGZRp_f>tH0ԗ>N)ŽSH,M
.Mr,pM90<K>gM2U[!*?#'yjDr`_Ջ|q:qιvnC:4IVrD3U524'OHЇ$ЊգEVt˼W~'blZv/=.ko#U$l9u88Ϛʡ?m5qOw:=J=]Ԓɕ;fT'S&n
Dw7EX:ЈV^_ѭYj1a'G:*#%`&('`M_/tQaL5p5/OsCԝBo+*e<#B,:jЋn.:l4r3X~/Bo@w?C3,8$;*@ĊǏ#^aZs4ɣrԍ>_^SQaMEMQp`(
~[q[ǣ$_cYURGHZI,_9O˲cUq_eitIÍ??@#LYZHYiǑpUn2R=r.mhS=,:Ww$pvU$%<8TUT0Ӳcc!wØьUʥ΄hVq3ɲ/l,`#:a+]Sy(=NT/d
cNQfDJ`ZSQhikiKo'vne:$4tjo#I3TJLIDb/]wU:25q'eVr&˘ӊb&y.;?ha%j&Blbx5/ViS.Sͷ|$obJTwlԸ,P4WT|=WSĆiR0._]Zi
MOԅԥX˝:Kyzw(Fyl~ɣyqa4sUuzЃ^v2Ax;Q!g@kwѲ+|ut@[X#P(SgaD=VWXA0V>e[$z#Ty(]x0:%k]ZyБUvʲg$ZRAMzV~<Tɔ^XNQ@4
SXb[Wrʹ0іO/BLzUGmv'4iʚ@(GL>NZMG<Ŝ~)nFWs6qα)ϻǆiSgl*D=*b5Zx@fEqQBNCJiqD5;m5.&Aǌ`c4vh1Ѣe>WUBJȺ)/dIDXgTH
J!|a1pȚo՘?ΐL_`Iʑ#TU>T:<*w]qKR3|FӪaE8_ѭKFUǿ$IBx&q,Ͱ*XckğSЎpӐ'pDNFRpJzMkýL69wRKFYiΧʰvІfhse*ҁ!t.ʗf=bҀtN
+hIUЫS*O.fmf&ѣY+I3YGIH`MWK?$yxJ_O2cá>i_$?gЉjeF.6ŚҜeÂ_o8tVXKwd'z4M!<2WԹD/)o:œӾĻ>zYBHPF68pfWQj!Hta?Mq,
պj?pBC9w&z]M:wF),nygO˓k2M]J47R'Z#Э1bCуQYП*r/I2DԹ&sΖaҠQ1ć8bL*Nr2Ha@X8e[ZQ/LrgE:0ÎͿ0Qvǁ^(Ow>?*%=D*:tQp
AHrkaɁRԺsLfU's+4ɫ)ŕVP/ȜjI%@ӚаPUKE>NN@ct'p~ҍKWTQs'x@P4l*ωlh;=p~it:Ȗņ@+A]?jWȉQ'OuƲ&'ax%R+Be'mnpQ%Ћ_Ԓpe
Ήp4Ȓ3P&Cy/I1h%`ՂOF64jlYUpnI%F'exэȊ0usХa3a|N=tӚ+ԶHb#E6O2`*0ӏŮjͱpЏE9ÅPȤłǳECL@`dџte_oYϲ?<)űg,^|p,Ϡ2C&h+
3^A]к_euз_!S<3ǌA@1rlDҋt[G˶&Ӧ7?Rf3uqϠ17'kA~SOJ5/$Ǒ=`<8!*^$q^LsF?U^Nsj;Ȇbd>u6d+dсҊjOrV$ȿ;t;oǭJJf=OxNP0
e:A1˧>&D$]*,J=~*ULMX&a1,G|fabL9@aQ5)(o,:<k8e˰nkC_YcJ+12y<W7sL_ó<k&ĤU!d^W4ĳ#ZUheX!k$6_ӏU(*Րq8yUSw:ngx
9cr5pϣQ~0φnδ;,PZaOc˝y=ɀG5<PÉEO5Xr<4Η<e`JymʴA0T0K:l[4Xgk9s]^s.^Sw:#qd#in=jɹÔz0'~o;yztN#ͳnAƐN)Mfj&+Rrl
2<˫dr%7`EyaOw)et5HD*:otgkʔƹr$;>JӬ#5՛;ˉØzxt]9U(t4%'Q&ϲkiϏN;/I/oAJA0._sҭpF3pSμg;S8+r[uCC7m8F`pk]55UQ%K
2ʬ~s%lȻ6g5LyΈ[/Ad$)+Qtĳ,bN:Coɺ[uҭ7rÖhk0īSi3!6//K`v?iŏpgU$3flutJ*ʓ=Lƫίs6=ńsAVNc^#qc/ёJncR'.[b:&pFAI2Ƙ
DeCɢ(ar˷9|c<nm=@#0!a%K+ԄϴH&kXǶɑĠD1Aq4Eb9/&Ȅ:.9[ȉ|[uӃ#,M#GF|c$S0)raO_XrQY.'!ɡJ^0r(#Taѹ6^ͷ#f'Hmwy"⟩

def packedJis0213Second : Packed :=
  ⟨18402, "bj.j!6#H'=BϙˣAƽ)yHԋӕ+Nƾc9]Ʉ)R]ƨ1W|[tSũPÏ?fOXl˷F?2g+]MMIBR2pVT@%UД.e3#>?vRX=(ɚz~Ͳ;srzƯD**)
^OK*Z,`4=YqAeDI^ƣp>uʛIZH΁pg%g#Wps3E(Gs~UGtIhxyFg[eFE$$Zs6ӦSm5|X(yHm8N%Hxd&d>C?=jͻTNŌ^1+M!Je@FDoxˈYo3
sr48G`5k@y8rǢ'Iyx&Jɥg'9X`_5ȑVŞU@<$iъUɤgpr7n>fΈDǽeRQu@qehgaE/ҋ>yR?uYэ˙pfLei=үpW$xӰɵzɕ'zCDGG^KbZzr$MʈU
U1]1r(.]5Sv7n=29E8(#΢o%t3+EC79D1ԕI8?`>@O.ϊtf#ІTΠ3ƓóeΊ.:?S5ҥWcL՝V!P24k΂]cwI9s^s%y$14E|<4VĴ&L:WVï3$iK2
˽xz2n)px=0~$2˜&CǙPp7N&qƹ8^ZŲ;:h4lD6?`C͵6a38â6^ZYβg˅xci&zpSIR&d6=~^gENZ_jTF8W.xgN*kX^6O|f;>.HkT4#FGl@
Uzp`)nWPM&rG'IXǤN9cĆm÷50sQ;О]Z>9<[Ru_R,ЍAW<Hr7>LXdn%m7rLnͻД5MmrwN/|X6r`v.3+Olfju9y#gVZ1ԟ+%/ԌW*grf61d
ԝeϣ=%xbI4=:R`:tYG;?0@R<TAPN~*d)Hӕ>:FՉl:=GD#Th,'yF+κy2)f<FEmďL#*_yқO2NUrA+/*w&.cg˨HqhY#vz),m&xkɱcҨMmr
6G|XoD4ʣ2<Pèa8n`EF[q+jWm#d'aPVI5Œ#]`w7x?u;Ϊe?JZen8l|dk_K7tԙhr/_,2r!1lj;u*e+RPW8jѯՅ3C$ĉWUAh:N҂8rAΘhw
3#F+h'8Dʝ|t/bg!mK3iVOtc,˞UMHYBȠOќ'Ϭ)Ɯ$mΟ:[)*k(UBOϨG]mǖg?I.CDg^QU#т?XKoƗA%uRqceI;7_ifqm,AzWZZ;,жTi;r2
ջ_Fs[jr|*4Ub4bd`Th%Xw`TBcgb3+&2j8rFԓ8y9ɴLkX:ˊdʫ[ʾȗHaHeKm5`Wq|tʙ~5[b*zrZoeŶsŢD.^sζYM[iɩvc/2g&`póAnUѪȽ
å0+կ765x.βD|$xVOJl4ÞM6@:×^KwŰù|ĉ'V'm$ʙ(N@Ӌ@Ǐ+'!ϲqϗTQbn?o5,:xyZ%g_ȒӹC8p7lVMҳHdWaUmpo՞@ì<UĒmOsEsSÛnp>7
]&[(84%0`V5py[PA^FVն՛Xr]JhIǕeNF@,kH0z_ƦY<pM?6Jl>o+PCA=xʆ#=t|xF[.1s_%w'Ĳ+˾`˻/`Z?q<C:[46D;!UJ+bwƠkp<^_
%JbJ@:b&Gҝ:0|d~b#ƥeįZ7'Ӗ=P^UlҕJЩ#,P.t#8b1z>VYkTkʭQzsh!PF;ZmB]8SƊՔ:TsϞS*KLHYB3r#Nq.4ԆOk5OUAdեÄ@.0˦PMU
ǱȐ]Ԑ^vLSg@#ÆЫQU.!`Ɂ@'@/cGCmsP[SľdVfX0VSbʥcL&u=a˃ˇ6?,.w?|Xff^|veϸF>|.zΪ8ua0=ÌgξW'*'1hHˠ:'IESAz˿?rXԸƼI
Ȯ3JC1bsdƬ1ds>zԅ#Jkŀ8(h)~SCQ_Բ4#Yd(oa@8dӰ1ocΝ2*X]I9K2yv&Б20.DH4ēf<m%Ko+$CГn4aT$e=Uam9vYMMā')nm,Ҵ:x=HD
2Vq7/)pRZuDbϿB1f*:;>~9`#8O<.$u;&ԫP[,85H+/LPX,pMB|ȏT:+&|hi'XOV21AaMY`Lg:Aŭ@<Swfa#8rȞzƄаoP[qy&%T`M>71^
!YeBctLeǐД&P_4BC%pPѮe2'rż)?E]47ĉ=E!2Ը>]Z1ҳ_h|[<WtMZ0$rR^jh!O$9`NϨPBȧrkV&Հ/C*ZVr98+:s`gDE(/$UɳP͹8*v77
4pp=JGR*mr1C7R(D7to7DfpȗNkǂ^Zʎ[MGi.x`|bi:Ĥ(b<w=C%Ĺe^wkWv$QnМHVWvaUp>//fDYvmY~_pCY>H,$Cq6GǃBx@|!hκŋ1Î
|$$LieVUldaL!71ci<>UV7ŔNCd=ıX2tCS~GafG^r,XY|BNOŅ1<$tś|Xnsh<ɛas+8A&]EǓTYZCuza0Mi&VQZ+'Yj#!@AkroUbx56d
*'N+mjY:!#;ՍdZxɌbq1$Mԍ4Kլ!)o9.ʂQ;w>UԹ&=AHj(qȒɟjfDT8_9z^ѥ6+Ǝjkҽi)ê;a!U~^iQfXoS5o@F~$EbZ8zzqx!vKn;EsUƓ
|ҞWKleJv`ιĖp$nIdZYJ<|+%ƛŏҖw?J]΃>ӻ=uwǱ<ѯ$).MX28cգg9qX~EtgYO7LJg$2=ɛ˙ɀɅ~2xJVnѹwuTg#@#y[+cAt,i'ΪBtxqq)5
(XWY>8MC9/@V''΢s)35Èk5#p&1z2pqCIPM/nGG%)u,WSxsNQ8PAɆ4]3ȣC<NUbr?^P|)ӄz5ыh[OK!`Gz~s&qGGR~<g2'*i,g,[`˾[
NȊ9:giAO˹0o4?ˏi#xG;^os$wkt]T'bFıh%)!H0E<47þũи(x0VLo%?^7TsnL+ÅЋMBNXg6Ndn!#ǌQ(&bxF*HȊ+3eB$jm,Ş!PvUX)5#
Zμ&WLRD@aqkΓpm5]v3uЛ!lkcʊFf;íω(5b,aûDUBoX%hэ%ոd1TFRĢr.iYfτ1GhW#EXpOqgZ_NN~FHJƴ9WŐPlvVbyCï92oǥ9ƝK(P2q
(i2n~zve;OM<4OλkrӵɓzBq0~8a+ˢnv(ZrȴΊD^Ǩ?Go9xЌC&IcKUByƷNǸY0REHk7))OeIy~$ŗ#ӹ+)7ǝX4?Wwf<yN`,0zȾh7Jt>+ԜcY
.ȂA˿ѓ^6d>Qs.woPŖ&ϕ;ӷw34:Έ!~ZU(3Tԇ.VP&Pb/&hϏD|T,d(ULy)L$Mf|!`&ʼ4/kk]WDNǞx)XbD91n]ѕ~v!@єg@li^Sʇi:n:ԑfG
y%qsQKʁoj'y6TCFaakTkn^y)Z*w|Sv`&spNU5R(`%ųLɏ!e^U>wkq%Km`|uFC'oDa2gLΡ(29?FXm~me@Z!Qt+7?BxE`R)Zx˷ŕB84S
K46O^ÄnW/oq(Im/yɭe7c^R~vK~uT9RchGp*rE]d5=<e=r%;bE0WHj^ålAԠr5<^m˄3uҜ~uV3~1ξxKYo=,djj&3~՟OoS.9ƳW|Hŝ9˙W
?6^n[JϜ#ɽleEժcaГKP98x;mg]ʦ$l+9ĀAlj~CAOA3=Hӿȣ4(éj|E8b'tѦPCvÝ;&O1uέ?247x>)LUGȫ8.#+>&JnϞ&ʖ4kZP.ÈxzuwDcW
*RNcwr[+1'|$ι(u~PaID9ŃlU!6nO[X<"⟩

/-- The cells of the first plane that hold two characters, a letter and a mark. -/
def jis0213Pairs : List (Nat × Char × Char) :=
  [(368, Char.ofNat 0x304B, Char.ofNat 0x309A), (369, Char.ofNat 0x304D, Char.ofNat 0x309A),
    (370, Char.ofNat 0x304F, Char.ofNat 0x309A), (371, Char.ofNat 0x3051, Char.ofNat 0x309A),
    (372, Char.ofNat 0x3053, Char.ofNat 0x309A), (462, Char.ofNat 0x30AB, Char.ofNat 0x309A),
    (463, Char.ofNat 0x30AD, Char.ofNat 0x309A), (464, Char.ofNat 0x30AF, Char.ofNat 0x309A),
    (465, Char.ofNat 0x30B1, Char.ofNat 0x309A), (466, Char.ofNat 0x30B3, Char.ofNat 0x309A),
    (467, Char.ofNat 0x30BB, Char.ofNat 0x309A), (468, Char.ofNat 0x30C4, Char.ofNat 0x309A),
    (469, Char.ofNat 0x30C8, Char.ofNat 0x309A), (557, Char.ofNat 0x31F7, Char.ofNat 0x309A),
    (975, Char.ofNat 0xE6, Char.ofNat 0x300), (979, Char.ofNat 0x254, Char.ofNat 0x300),
    (980, Char.ofNat 0x254, Char.ofNat 0x301), (981, Char.ofNat 0x28C, Char.ofNat 0x300),
    (982, Char.ofNat 0x28C, Char.ofNat 0x301), (983, Char.ofNat 0x259, Char.ofNat 0x300),
    (984, Char.ofNat 0x259, Char.ofNat 0x301), (985, Char.ofNat 0x25A, Char.ofNat 0x300),
    (986, Char.ofNat 0x25A, Char.ofNat 0x301), (1008, Char.ofNat 0x2E9, Char.ofNat 0x2E5),
    (1009, Char.ofNat 0x2E5, Char.ofNat 0x2E9)]

end SyntaxGraph.Text
